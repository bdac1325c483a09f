import MarkupTemplate.Proofs.Page.FilePaths
import MarkupTemplate.Proofs.Page.Loading

/-!
Files under a root directory. A key that is not refused is followed inward only, so what it reads
stands in the tree of the root under its names, one inside the other; the directories around the
root are never looked at. Links between files are not part of a tree.
-/

namespace MarkupTemplate
namespace Page

namespace FileTree

/-- What stands in a tree under names, each inside the one before. -/
def under? : List String → FileTree → Option FileTree
  | [], tree => some tree
  | name :: names, .directory entries => (Entries.get? entries name).bind (under? names)
  | _ :: _, .file _ => none

theorem under?_file {names : List String} {content : ByteArray} {found : FileTree}
    (stands : under? names (.file content) = some found) : names = [] := by
  cases names with
  | nil => rfl
  | cons name names => contradiction

structure Followable (segments : List String) : Prop where
  names_short : ∀ segment ∈ segments, FilePath.staysAt segment = false →
    segment.utf8ByteSize ≤ maxNameSize
  ends_in_name : ∀ last ∈ segments.getLast?, FilePath.staysAt last = false

theorem followable_nil : Followable [] :=
  ⟨by simp, by simp⟩

theorem followable_cons {segment : String} {path : List String} :
    Followable (segment :: path) ↔
      (FilePath.staysAt segment = false → segment.utf8ByteSize ≤ maxNameSize) ∧
        (path = [] → FilePath.staysAt segment = false) ∧ Followable path := by
  cases path with
  | nil =>
      constructor
      · rintro ⟨short, ends⟩
        exact ⟨short segment (by simp), fun _ => ends segment (by simp), followable_nil⟩
      · rintro ⟨short, ends, _⟩
        exact ⟨by simpa using short, by simpa using ends⟩
  | cons next path =>
      constructor
      · rintro ⟨short, ends⟩
        refine ⟨short segment (by simp), by simp, ⟨?_, ?_⟩⟩
        · intro other member
          exact short other (List.mem_cons_of_mem _ member)
        · simpa using ends
      · rintro ⟨first_short, _, short, ends⟩
        refine ⟨?_, by simpa using ends⟩
        intro other member
        rcases List.mem_cons.1 member with rfl | member
        · exact first_short
        · exact short other member

theorem Followable.named_ne_nil {path : List String} (followable : Followable path)
    (nonempty : path ≠ []) : FilePath.named path ≠ [] := by
  have last_named := followable.ends_in_name _ (List.getLast?_eq_some_getLast nonempty)
  exact List.ne_nil_of_mem (List.mem_filter.2 ⟨List.getLast_mem nonempty, by simp [last_named]⟩)

/-- A path that never leads outward reaches a file exactly where its names lead to it. -/
theorem follow_file_iff
    (outer : List FileTree) {path : List String} (inward : ".." ∉ path)
    (tree : FileTree) (content : ByteArray) :
    tree.follow outer path = .ok (.file content) ↔
      Followable path ∧ tree.under? (FilePath.named path) = some (.file content) := by
  induction path generalizing outer tree with
  | nil => simp [follow, FilePath.named, under?, followable_nil]
  | cons segment path ih =>
      simp only [List.mem_cons, not_or] at inward
      obtain ⟨name, inward⟩ := inward
      cases tree with
      | file text =>
          refine iff_of_false (by simp [follow]) ?_
          rintro ⟨followable, stands⟩
          exact followable.named_ne_nil (by simp) (under?_file stands)
      | directory entries =>
          cases stays : FilePath.staysAt segment with
          | true =>
              have named_eq : FilePath.named (segment :: path) = FilePath.named path := by
                simp [FilePath.named, stays]
              simp only [follow, stays, if_true]
              rw [ih outer inward, named_eq]
              apply and_congr_left
              -- a directory is no file, so the names of the path go on behind this segment
              intro stands
              have nonempty : path ≠ [] := by
                rintro rfl
                simp [FilePath.named, under?] at stands
              simp [followable_cons, stays, nonempty]
          | false =>
              have named_eq :
                  FilePath.named (segment :: path) = segment :: FilePath.named path := by
                simp [FilePath.named, stays]
              simp only [follow, stays, Bool.false_eq_true, if_false, if_neg (Ne.symm name), entry?]
              rw [named_eq, followable_cons, under?]
              by_cases long : maxNameSize < segment.utf8ByteSize
              · simp [long, stays, Nat.not_le.2 long]
              · rw [if_neg long]
                cases held : Entries.get? entries segment with
                | none => simp
                | some inner =>
                    simp [ih (.directory entries :: outer) inward, stays, Nat.le_of_not_lt long]

/-- Nothing that stands around a tree shows in what a path finds that never leads outward. -/
theorem follow_around
    (outer other : List FileTree) {path : List String} (inward : ".." ∉ path) (tree : FileTree) :
    tree.follow outer path = tree.follow other path := by
  induction path generalizing outer other tree with
  | nil => rfl
  | cons segment path ih =>
      simp only [List.mem_cons, not_or] at inward
      cases tree with
      | file text => rfl
      | directory entries =>
          simp only [follow, if_neg (Ne.symm inward.1), ih outer other inward.2]
          split
          · rfl
          · cases entry? segment (.directory entries) with
            | error failure => rfl
            | ok inner => exact ih _ _ inward.2 inner

theorem text_eq_ok_iff {tree : FileTree} {text : String} :
    tree.text = .ok text ↔
      ∃ content, tree = .file content ∧ String.fromUTF8? content = some text := by
  cases tree with
  | directory entries => simp [FileTree.text]
  | file content => cases decoded : String.fromUTF8? content <;> simp [FileTree.text, decoded]

end FileTree

/-- Whether a key leads to a file with a text in the tree of a root directory: the file stands under
the names of the key, and the system can follow the key to it. -/
structure Designates (tree : FileTree) (key text : String) : Prop where
  inside : ¬LeadsOut key
  no_null : '\x00' ∉ key.toList
  short : key.utf8ByteSize ≤ FileTree.maxPathSize
  followable : FileTree.Followable (FilePath.segments key)
  file : ∃ content, tree.under? (FilePath.names key) = some (.file content) ∧
    String.fromUTF8? content = some text

theorem FileTree.read_eq_ok_iff {tree : FileTree} {key text : String} (inside : ¬LeadsOut key) :
    tree.read key = .ok text ↔ Designates tree key text := by
  have inward := inward_of_inside inside
  have refused_iff :
      (key.toList.contains '\x00' || decide (maxPathSize < key.utf8ByteSize)) = true ↔
      ¬('\x00' ∉ key.toList ∧ key.utf8ByteSize ≤ maxPathSize) := by
    simp [Classical.or_iff_not_imp_left]
  unfold read
  rw [relative_of_inside inside, if_neg Bool.false_ne_true]
  split
  · next refused =>
      refine iff_of_false (by simp) fun designates => ?_
      exact refused_iff.1 refused ⟨designates.no_null, designates.short⟩
  · next followed =>
      obtain ⟨no_null, short⟩ := not_not.1 (followed ∘ refused_iff.2)
      constructor
      · intro read
        cases found : tree.follow [] (FilePath.segments key) with
        | error failure => simp [found] at read
        | ok inner =>
            rw [found] at read
            obtain ⟨content, rfl, decoded⟩ := text_eq_ok_iff.1 read
            obtain ⟨followable, stands⟩ := (follow_file_iff [] inward tree content).1 found
            exact ⟨inside, no_null, short, followable, content, stands, decoded⟩
      · rintro ⟨_, _, _, followable, content, stands, decoded⟩
        rw [(follow_file_iff [] inward tree content).2 ⟨followable, stands⟩]
        exact text_eq_ok_iff.2 ⟨content, rfl, decoded⟩

namespace Source

variable (tree : FileTree)

theorem fetch_files_refused_iff (key : String) :
    (files tree).fetch key = .error (.pathEscape key) ↔ LeadsOut key := by
  rcases resolve_cases "" key with ⟨leads, refused⟩ | ⟨inside, resolved⟩
  · simp [fetch, readFile, refused, leads]
  · simp only [fetch, readFile, resolved, inside, iff_false]
    cases tree.read (FilePath.join "" key) with
    | ok text => simp
    | error failure => cases failure <;> simp

theorem fetch_files_eq_ok_iff (key text : String) :
    (files tree).fetch key = .ok text ↔ Designates tree key text := by
  rcases resolve_cases "" key with ⟨leads, refused⟩ | ⟨inside, resolved⟩
  · refine iff_of_false ?_ fun designates => designates.inside leads
    simp [fetch, readFile, refused]
  · rw [← FileTree.read_eq_ok_iff inside]
    simp only [fetch, readFile, resolved, FilePath.join_nothing]
    cases tree.read key with
    | ok read => simp
    | error failure => cases failure <;> simp

end Source

namespace Resource

variable (tree : FileTree) (layout : KeyLayout) (kind : Resource) (name : String)

theorem decode_ne_refused (key text other : String) :
    kind.decode key text ≠ .error (.pathEscape other) := by
  cases kind with
  | template => simp [decode]
  | document =>
      simp only [decode]
      split <;> simp

theorem given_refused_iff :
    kind.given layout (.files tree) name = .error (.pathEscape (kind.key layout name)) ↔
      LeadsOut (kind.key layout name) := by
  rw [← Source.fetch_files_refused_iff tree, given]
  cases (Source.files tree).fetch (kind.key layout name) with
  | error error => simp [Except.bind]
  | ok text => simpa [Except.bind] using kind.decode_ne_refused _ text _

theorem given_eq_ok_iff (value : kind.Value) :
    kind.given layout (.files tree) name = .ok value ↔
      ∃ text, Designates tree (kind.key layout name) text ∧
        kind.decode (kind.key layout name) text = .ok value := by
  simp only [← Source.fetch_files_eq_ok_iff, given]
  cases (Source.files tree).fetch (kind.key layout name) with
  | error error => simp [Except.bind]
  | ok text => simp [Except.bind]

end Resource

/-- A source of files never leaves its root directory, for any key and so for the key of any name in
any layout. A key is refused exactly if it is empty, begins with a slash or has a segment `..`.
Otherwise its path says what the root says and then the names of the key; it finds the same whatever
stands around the root, and a text only in the file under those names. -/
theorem files_stay_under_root (tree : FileTree) :
    (∀ root key, Source.resolve root key = .error (.pathEscape key) ↔ LeadsOut key) ∧
    (∀ root key, ¬LeadsOut key → ∃ path, Source.resolve root key = .ok path ∧
      FilePath.places path = FilePath.places root ++ (FilePath.names key).map .inward) ∧
    (∀ outer key, ¬LeadsOut key →
      tree.follow outer (FilePath.segments key) = tree.follow [] (FilePath.segments key)) ∧
    (∀ key, (Source.files tree).fetch key = .error (.pathEscape key) ↔ LeadsOut key) ∧
    (∀ key text, (Source.files tree).fetch key = .ok text ↔ Designates tree key text) ∧
    ∀ (store : Store) (kind : Resource) (name : String),
      store.feed.source = .files tree → store.cached? kind name = none →
        let key := kind.key store.loader.layout name
        ((store.load kind name).1 = .error (.pathEscape key) ↔ LeadsOut key) ∧
        ∀ value, (store.load kind name).1 = .ok value ↔
          ∃ text, Designates tree key text ∧ kind.decode key text = .ok value := by
  refine ⟨Source.resolve_refused_iff, fun root key => Source.resolve_inside root, ?_,
    Source.fetch_files_refused_iff tree, Source.fetch_files_eq_ok_iff tree, ?_⟩
  · intro outer key inside
    exact FileTree.follow_around _ _ (inward_of_inside inside) tree
  · intro store kind name source missed key
    have answer : (store.load kind name).1 =
        kind.given store.loader.layout (.files tree) name := by
      rw [Store.load_of_missed missed, Store.given, source]
    rw [answer]
    exact ⟨Resource.given_refused_iff .., fun value => Resource.given_eq_ok_iff ..⟩

def viewTree : FileTree :=
  .directory [("views", .directory [("card.asth", .file "<p>".toUTF8)])]

/-- Templates in a directory of their own, documents in the root directory itself. -/
def viewStore (templateExt : String) : Store where
  feed := ⟨.files viewTree, 0⟩
  loader := .ofLayout ⟨"./views//", templateExt, "/"⟩

theorem files_stay_under_root_views :
    ((viewStore "asth").load .template "card").1 = .ok "<p>" ∧
    ((viewStore "").load .template ".").1 = .error (.pathEscape "./views/..") ∧
    ((viewStore "asth").load .template "x/../../card").1 =
      .error (.pathEscape "./views/x/../../card.asth") ∧
    ((viewStore "asth").load .document "/etc/passwd").1 =
      .error (.pathEscape "/etc/passwd.json") := by
  have loads (ext : String) (kind : Resource) (name : String) :=
    (files_stay_under_root viewTree).2.2.2.2.2 (viewStore ext) kind name rfl
      (by cases kind <;> rfl)
  refine ⟨?_, ?_, ?_, ?_⟩
  · apply ((loads "asth" .template "card").2 "<p>").2
    refine ⟨"<p>", ⟨?_, ?_, ?_, ⟨?_, ?_⟩, _, rfl, ?_⟩, rfl⟩
    all_goals decide +kernel
  · exact (loads "" .template ".").1.2 (by decide +kernel)
  · exact (loads "asth" .template "x/../../card").1.2 (by decide +kernel)
  · exact (loads "asth" .document "/etc/passwd").1.2 (by decide +kernel)

end Page
end MarkupTemplate
