/-!
Values under names, as a list of pairs. A name occurs at most once in a list that only these
operations have made.
-/

namespace MarkupTemplate

abbrev Entries (α : Type) := List (String × α)

namespace Entries

variable {α : Type}

def get? (entries : Entries α) (name : String) : Option α :=
  entries.lookup name

/-- Sets the value under a name; a name that is new goes to the end. -/
def put (entries : Entries α) (name : String) (value : α) : Entries α :=
  match entries with
  | [] => [(name, value)]
  | (other, held) :: entries =>
      if name = other then (name, value) :: entries else (other, held) :: put entries name value

def remove (entries : Entries α) (name : String) : Entries α :=
  entries.filter fun entry => entry.1 != name

theorem get?_put_self (entries : Entries α) (name : String) (value : α) :
    get? (put entries name value) name = some value := by
  induction entries with
  | nil => simp [put, get?]
  | cons entry entries ih =>
      obtain ⟨other, held⟩ := entry
      simp only [put]
      split
      · simp [get?]
      · next different =>
          have other_ne : (name == other) = false := by simpa using different
          simpa [get?, List.lookup_cons, other_ne] using ih

theorem get?_put_of_ne
    (entries : Entries α) {name asked : String} (value : α)
    (different : asked ≠ name) :
    get? (put entries name value) asked = get? entries asked := by
  have asked_ne : (asked == name) = false := by simpa using different
  induction entries with
  | nil => simp [put, get?, List.lookup_cons, asked_ne]
  | cons entry entries ih =>
      obtain ⟨other, held⟩ := entry
      simp only [put]
      split
      · next same => subst same; simp [get?, List.lookup_cons, asked_ne]
      · simp only [get?, List.lookup_cons] at ih ⊢
        split <;> simp_all

theorem get?_remove_self (entries : Entries α) (name : String) :
    get? (remove entries name) name = none := by
  induction entries with
  | nil => rfl
  | cons entry entries ih =>
      obtain ⟨other, held⟩ := entry
      by_cases same : other = name
      · simpa [remove, same] using ih
      · have name_ne : (name == other) = false := by simpa using Ne.symm same
        simpa [remove, same, get?, List.lookup_cons, name_ne] using ih

theorem get?_remove_of_ne
    (entries : Entries α) {name asked : String}
    (different : asked ≠ name) :
    get? (remove entries name) asked = get? entries asked := by
  induction entries with
  | nil => rfl
  | cons entry entries ih =>
      obtain ⟨other, held⟩ := entry
      by_cases same : other = name
      · subst same
        have asked_ne : (asked == other) = false := by simpa using different
        simpa [remove, get?, List.lookup_cons, asked_ne] using ih
      · by_cases found : asked = other
        · simp [remove, same, get?, found]
        · have asked_ne : (asked == other) = false := by simpa using found
          simpa [remove, same, get?, List.lookup_cons, asked_ne] using ih

end Entries
end MarkupTemplate
