/-
# Ids of functions

The id of a function is its file, its class if it has one, and its name, with points and colons
between them.  The file may hold points and colons of its own.  But a name without them is what
stands after the last one in the id, and so is a class in what is left, so the parts can be told from
the id (`functionId_inj`), and the name from its end (`endsInName_functionId`).
-/
import CodeSurvey.Outline.Basic
import Mathlib.Data.List.Basic

namespace CodeSurvey

/-! ## Names without separators -/

/-- The characters that stand between the parts of an id. -/
def IsSeparator (c : Char) : Prop := c = '.' ∨ c = ':'

/-- A name that holds no separator. -/
def IsPlainName (name : String) : Prop := '.' ∉ name.toList ∧ ':' ∉ name.toList

instance (name : String) : Decidable (IsPlainName name) :=
  inferInstanceAs (Decidable (_ ∧ _))

/-- A plain name holds no separator. -/
theorem IsPlainName.not_isSeparator {name : String} (h : IsPlainName name) :
    ∀ c ∈ name.toList, ¬ IsSeparator c := by
  rintro c hc (rfl | rfl)
  · exact h.1 hc
  · exact h.2 hc

/-- The last separator of a text can be told from the text. -/
theorem append_separator_inj {a b x y : List Char} {s t : Char} (hs : IsSeparator s)
    (ht : IsSeparator t) (hx : ∀ c ∈ x, ¬ IsSeparator c) (hy : ∀ c ∈ y, ¬ IsSeparator c) :
    a ++ s :: x = b ++ t :: y ↔ a = b ∧ s = t ∧ x = y := by
  constructor
  · intro h
    -- where one front is longer than the other, it takes its separator out of the other's rest
    rcases List.append_eq_append_iff.1 h with ⟨m, hb, hm⟩ | ⟨m, ha, hm⟩
    · cases m with
      | nil =>
        obtain ⟨rfl, rfl⟩ := List.cons.inj hm
        exact ⟨by rw [hb, List.append_nil], rfl, rfl⟩
      | cons c m =>
        obtain ⟨-, rfl⟩ := List.cons.inj hm
        exact absurd ht (hx t (by simp))
    · cases m with
      | nil =>
        obtain ⟨rfl, rfl⟩ := List.cons.inj hm
        exact ⟨by rw [ha, List.append_nil], rfl, rfl⟩
      | cons c m =>
        obtain ⟨-, rfl⟩ := List.cons.inj hm
        exact absurd hs (hy s (by simp))
  · rintro ⟨rfl, rfl, rfl⟩
    rfl

/-! ## Ids -/

/-- The id of the function with a given file, class and name. -/
def functionId (file : String) (className : Option String) (name : String) : String :=
  match className with
  | some c => file ++ "::" ++ c ++ "." ++ name
  | none => file ++ "::" ++ name

/-- The id of a function is made of its file, its class and its name. -/
theorem qualifiedId_eq_functionId (f : FunctionEntry) (file : String) :
    f.qualifiedId file = functionId file f.className f.name := by
  unfold FunctionEntry.qualifiedId functionId
  rfl

/-- What stands before the last separator of an id. -/
def idStem (file : String) : Option String → List Char
  | some c => file.toList ++ ':' :: ':' :: c.toList
  | none => file.toList ++ [':']

/-- The last separator of an id. -/
def idSeparator : Option String → Char
  | some _ => '.'
  | none => ':'

/-- A function is set off by a separator, in a class or not. -/
theorem isSeparator_idSeparator (className : Option String) :
    IsSeparator (idSeparator className) := by
  cases className with
  | none => exact Or.inr rfl
  | some c => exact Or.inl rfl

/-- An id is its stem, its last separator and the name. -/
theorem toList_functionId (file : String) (className : Option String) (name : String) :
    (functionId file className name).toList =
      idStem file className ++ idSeparator className :: name.toList := by
  cases className <;> simp [functionId, idStem, idSeparator]

/-- **Ids are unique**: file, class and name can be told from the id, whatever characters the file
holds. -/
theorem functionId_inj {file file' name name' : String} {className className' : Option String}
    (hname : IsPlainName name) (hname' : IsPlainName name')
    (hclass : ∀ c ∈ className, IsPlainName c) (hclass' : ∀ c ∈ className', IsPlainName c) :
    functionId file className name = functionId file' className' name' ↔
      file = file' ∧ className = className' ∧ name = name' := by
  rw [← String.toList_inj, toList_functionId, toList_functionId,
    append_separator_inj (isSeparator_idSeparator _) (isSeparator_idSeparator _)
      hname.not_isSeparator hname'.not_isSeparator, String.toList_inj]
  -- the last separator tells functions in classes from others, and the stem has another one
  cases className with
  | none =>
    cases className' with
    | none => simp [idStem, idSeparator, String.toList_inj]
    | some c' => simp [idSeparator]
  | some c =>
    cases className' with
    | none => simp [idSeparator]
    | some c' =>
      have hstem : idStem file (some c) = idStem file' (some c') ↔ file = file' ∧ c = c' := by
        have hcut (f : String) (d : String) :
            idStem f (some d) = (f.toList ++ [':']) ++ ':' :: d.toList := by
          simp [idStem]
        rw [hcut, hcut, append_separator_inj (Or.inr rfl) (Or.inr rfl)
          (hclass c rfl).not_isSeparator (hclass' c' rfl).not_isSeparator]
        simp [String.toList_inj]
      rw [hstem, Option.some.injEq]
      simp [idSeparator, and_assoc]

/-! ## Ends of ids -/

/-- An id ends with a name after a separator: two colons, or a point. -/
def EndsInName (id name : String) : Prop :=
  ("::" ++ name).toList <:+ id.toList ∨ ("." ++ name).toList <:+ id.toList

instance (id name : String) : Decidable (EndsInName id name) :=
  inferInstanceAs (Decidable (_ ∨ _))

/-- An id ends with the name of its function and with no other. -/
theorem endsInName_functionId {file name name' : String} {className : Option String}
    (hname : IsPlainName name) (hname' : IsPlainName name') :
    EndsInName (functionId file className name) name' ↔ name = name' := by
  constructor
  · intro h
    -- either way the id ends with a separator and the name looked for
    have hcut : ∃ front s, IsSeparator s ∧
        front ++ s :: name'.toList = (functionId file className name).toList := by
      rcases h with ⟨front, h⟩ | ⟨front, h⟩
      · exact ⟨front ++ [':'], ':', Or.inr rfl, by simpa using h⟩
      · exact ⟨front, '.', Or.inl rfl, by simpa using h⟩
    obtain ⟨front, s, hs, h⟩ := hcut
    rw [toList_functionId, append_separator_inj hs (isSeparator_idSeparator _)
      hname'.not_isSeparator hname.not_isSeparator, String.toList_inj] at h
    exact h.2.2.symm
  · rintro rfl
    cases className with
    | none => exact Or.inl ⟨file.toList, by simp [functionId]⟩
    | some c => exact Or.inr ⟨file.toList ++ "::".toList ++ c.toList, by simp [functionId]⟩

end CodeSurvey
