import Mathlib.Data.List.Basic
import MarkupTemplate.Page.Source
import MarkupTemplate.Proofs.Text.Cutting

/-!
What the text of a path says, and which keys are refused. A key that is not refused names, behind
the root directory, nothing but what its own names say, one after the other.
-/

namespace MarkupTemplate
namespace Page
namespace FilePath

/-- What a path says to do, but for staying. -/
def places (path : String) : List Component :=
  (components path).filter fun component => component != .here

theorem segments_slash (directory path : String) :
    segments (directory ++ "/" ++ path) = segments directory ++ segments path := by
  have text_eq : (directory ++ "/" ++ path).toList = directory.toList ++ '/' :: path.toList := by
    simp
  rw [segments, text_eq, Text.splitOn_append, List.map_append]
  rfl

theorem segments_ended (directory : String) :
    segments (directory ++ "/") = segments directory ++ [""] := by
  simpa [segments, Text.splitOn] using segments_slash directory ""

theorem isAbsolute_iff {path : String} : isAbsolute path = true ↔ ∃ rest, path = "/" ++ rest := by
  simp only [isAbsolute, beq_iff_eq, List.head?_eq_some_iff]
  constructor
  · rintro ⟨rest, text_eq⟩
    refine ⟨String.ofList rest, ?_⟩
    rw [← String.toList_inj]
    simpa using text_eq
  · rintro ⟨rest, rfl⟩
    exact ⟨rest.toList, by simp⟩

theorem isAbsolute_append {directory : String} (nonempty : directory ≠ "") (path : String) :
    isAbsolute (directory ++ path) = isAbsolute directory := by
  have text_ne : directory.toList ≠ [] := by simpa using nonempty
  obtain ⟨c, text, text_eq⟩ := List.exists_cons_of_ne_nil text_ne
  simp [isAbsolute, text_eq]

theorem component?_ne_here (segment : String) : component? segment ≠ some .here := by
  unfold component?
  split
  · simp
  · split <;> simp

/-- A slash at the start is all that a path can say beyond its segments. -/
theorem places_eq (path : String) :
    places path =
      (if isAbsolute path then [.systemRoot] else []) ++ (segments path).filterMap component? := by
  have moving : ∀ component ∈ (segments path).filterMap component?,
      (component != .here) = true := by
    intro component member
    obtain ⟨segment, _, said⟩ := List.mem_filterMap.1 member
    rw [bne_iff_ne]
    rintro rfl
    exact component?_ne_here segment said
  rw [places, components, List.filter_append, List.filter_eq_self.2 moving]
  congr 1
  unfold start
  split
  · rfl
  · split <;> rfl

/-- Segments that do not lead outward say their names. -/
theorem inward_names {path : String} (inward : ".." ∉ segments path) :
    (segments path).filterMap component? = (names path).map .inward := by
  rw [names, named, ← List.filterMap_eq_map, List.filterMap_filter]
  apply List.filterMap_congr
  intro segment member
  have name : segment ≠ ".." := fun same => inward (same ▸ member)
  cases stays : staysAt segment <;> simp [component?, stays, name]

/-- A slash at the end of a directory says nothing. -/
theorem places_ended {directory : String} (nonempty : directory ≠ "") :
    places (directory ++ "/") = places directory := by
  rw [places_eq, places_eq, segments_ended, List.filterMap_append, isAbsolute_append nonempty]
  simp [component?, staysAt]

theorem places_slash (directory path : String) :
    places (directory ++ "/" ++ path) =
      places (directory ++ "/") ++ (segments path).filterMap component? := by
  have nonempty : directory ++ "/" ≠ "" := by simp
  rw [places_eq, places_eq, isAbsolute_append nonempty, segments_slash, segments_ended]
  simp [component?, staysAt]

/-- A path taken from a directory says what the directory says and then what the path says. -/
theorem places_join (directory : String) {path : String} (relative : isAbsolute path = false) :
    places (join directory path) = places directory ++ (segments path).filterMap component? := by
  unfold join
  rw [if_neg (by simp [relative])]
  split
  · next empty =>
      have nothing : directory = "" := by simpa using List.getLast?_eq_none_iff.1 empty
      rw [nothing, places_eq path, relative]
      rfl
  · next slash =>
      obtain ⟨text, text_eq⟩ := List.getLast?_eq_some_iff.1 slash
      have directory_eq : directory = String.ofList text ++ "/" := by
        rw [← String.toList_inj]
        simpa using text_eq
      rw [directory_eq, places_slash]
  · next last =>
      have nonempty : directory ≠ "" := by
        rintro rfl
        simp at last
      rw [places_slash, places_ended nonempty]

theorem join_nothing (path : String) : join "" path = path := by
  unfold join
  split <;> rfl

theorem leaves_iff {path : String} :
    (components path).any Component.leaves = true ↔
      isAbsolute path = true ∨ ".." ∈ segments path := by
  rw [components, List.any_append, Bool.or_eq_true]
  apply or_congr
  · unfold start
    split
    · next absolute => simp [absolute, Component.leaves]
    · next relative => split <;> simp [relative, Component.leaves]
  · rw [List.any_eq_true]
    constructor
    · rintro ⟨component, member, leaves⟩
      obtain ⟨segment, inside, said⟩ := List.mem_filterMap.1 member
      unfold component? at said
      split at said
      · contradiction
      · split at said
        · next outward => exact outward ▸ inside
        · cases said
          contradiction
    · intro inside
      exact ⟨.outward, List.mem_filterMap.2 ⟨"..", inside, by decide⟩, rfl⟩

end FilePath

def LeadsOut (key : String) : Prop :=
  key = "" ∨ (∃ rest, key = "/" ++ rest) ∨ ".." ∈ FilePath.segments key

instance (key : String) : Decidable (LeadsOut key) :=
  decidable_of_iff (key = "" ∨ FilePath.isAbsolute key = true ∨ ".." ∈ FilePath.segments key)
    (by rw [FilePath.isAbsolute_iff]; rfl)

theorem relative_of_inside {key : String} (inside : ¬LeadsOut key) :
    FilePath.isAbsolute key = false := by
  apply Bool.eq_false_iff.2
  intro absolute
  exact inside (.inr (.inl (FilePath.isAbsolute_iff.1 absolute)))

theorem inward_of_inside {key : String} (inside : ¬LeadsOut key) :
    ".." ∉ FilePath.segments key :=
  fun outward => inside (.inr (.inr outward))

namespace Source

theorem resolve_cases (root key : String) :
    LeadsOut key ∧ resolve root key = .error (.pathEscape key) ∨
      ¬LeadsOut key ∧ resolve root key = .ok (FilePath.join root key) := by
  have refused_iff : (key == "" || (FilePath.components key).any FilePath.Component.leaves) =
      true ↔ LeadsOut key := by
    rw [Bool.or_eq_true, beq_iff_eq, FilePath.leaves_iff, FilePath.isAbsolute_iff]
    rfl
  unfold resolve
  split
  · next refused => exact .inl ⟨refused_iff.1 refused, rfl⟩
  · next kept => exact .inr ⟨fun leads => kept (refused_iff.2 leads), rfl⟩

theorem resolve_refused_iff (root key : String) :
    resolve root key = .error (.pathEscape key) ↔ LeadsOut key := by
  rcases resolve_cases root key with ⟨leads, refused⟩ | ⟨inside, resolved⟩
  · exact iff_of_true refused leads
  · exact iff_of_false (by simp [resolved]) inside

/-- What is resolved is what the root says, and then the names of the key. -/
theorem resolve_inside (root : String) {key : String} (inside : ¬LeadsOut key) :
    ∃ path, resolve root key = .ok path ∧
      FilePath.places path = FilePath.places root ++ (FilePath.names key).map .inward := by
  obtain ⟨_, resolved⟩ := (resolve_cases root key).resolve_left fun refused => inside refused.1
  refine ⟨FilePath.join root key, resolved, ?_⟩
  rw [FilePath.places_join root (relative_of_inside inside),
    FilePath.inward_names (inward_of_inside inside)]

end Source
end Page
end MarkupTemplate
