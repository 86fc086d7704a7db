import ExpressionGraphs.Proofs.TypeNotation

set_option autoImplicit false

/-!
# Types displayed and read again

The displayed text of a type is a notation of that type and of no other, unless a function type or
a box occurs in it: such a text contains a character that no notation contains. What is read is
displayed without the white space of the notation.
-/

namespace ExpressionGraphs

namespace Text

def withoutWhiteSpace (cs : List Char) : List Char := cs.filter fun c => !isWhiteSpace c

theorem withoutWhiteSpace_append (as bs : List Char) :
    withoutWhiteSpace (as ++ bs) = withoutWhiteSpace as ++ withoutWhiteSpace bs :=
  List.filter_append as bs

theorem withoutWhiteSpace_of_blank {cs : List Char} (h : ∀ c ∈ cs, isWhiteSpace c = true) :
    withoutWhiteSpace cs = [] := by
  refine List.filter_eq_nil_iff.2 fun c mem => ?_
  rw [h c mem]
  exact Bool.false_ne_true

end Text

theorem withoutWhiteSpace_of_isName {cs : List Char} (h : isName cs = true) :
    Text.withoutWhiteSpace cs = cs := by
  refine List.filter_eq_self.2 fun c mem => ?_
  rw [isWhiteSpace_of_isNamePart (isNamePart_of_isName h c mem)]
  rfl

namespace Ty

open Text

theorem toList_text_array (t : Ty) : (array t).text.toList = '[' :: t.text.toList ++ [']'] := by
  rw [text, String.toList_append, String.toList_append]
  rfl

theorem toList_text_nullable (t : Ty) : (nullable t).text.toList = t.text.toList ++ ['?'] := by
  rw [text, String.toList_append]
  rfl

/-! ## From a type to its text -/

def IsClassName (name : String) : Prop :=
  isName name.toList = true ∧ ∀ t, (name, t) ∉ primitives

theorem denotes_text : {t : Ty} → (∀ name ∈ t.classNames, IsClassName name) →
    t.hasNotation = true → Denotes t.text.toList t
  | void, _, _ | bool, _, _ | int, _, _ | float, _, _ | string, _, _ | object, _, _ =>
    .primitive (by decide)
  | named name, wf, _ =>
    have own : IsClassName name := wf name List.mem_cons_self
    .className own.2 own.1
  | array t, wf, written => by
    rw [toList_text_array]
    exact .array (denotes_text (t := t) wf written)
  | nullable t, wf, written => by
    rw [toList_text_nullable]
    exact .nullable (denotes_text (t := t) wf written)

/-- The characters that the texts of function types and of boxes contain beside those of their
parts. -/
def foreign : List Char := ['(', '<']

theorem exists_foreign : {t : Ty} → t.hasNotation = false → ∃ c ∈ t.text.toList, c ∈ foreign
  | array t, h => by
    obtain ⟨c, mem, bad⟩ := exists_foreign (t := t) h
    rw [toList_text_array]
    exact ⟨c, List.mem_append_left _ (List.mem_cons_of_mem _ mem), bad⟩
  | nullable t, h => by
    obtain ⟨c, mem, bad⟩ := exists_foreign (t := t) h
    rw [toList_text_nullable]
    exact ⟨c, List.mem_append_left _ mem, bad⟩
  | func params result, _ => by
    refine ⟨'(', ?_, by decide⟩
    simp [text]
  | holder t, _ => by
    refine ⟨'<', ?_, by decide⟩
    simp [text]

theorem not_isNamePart_of_foreign {c : Char} (h : c ∈ foreign) : isNamePart c = false := by
  have all : foreign.all (fun c => !isNamePart c) = true := by decide
  simpa using List.all_eq_true.1 all c h

theorem not_isWhiteSpace_of_foreign {c : Char} (h : c ∈ foreign) : isWhiteSpace c = false := by
  have all : foreign.all (fun c => !isWhiteSpace c) = true := by decide
  simpa using List.all_eq_true.1 all c h

theorem not_foreign_of_isName {cs : List Char} (h : isName cs = true) : ∀ c ∈ cs, c ∉ foreign := by
  intro c mem bad
  have part := isNamePart_of_isName h c mem
  rw [not_isNamePart_of_foreign bad] at part
  cases part

theorem Denotes.not_foreign {cs : List Char} {t : Ty} (h : Denotes cs t) :
    ∀ c ∈ cs, c ∉ foreign := by
  induction h with
  | @blank before body after _ hb ha _ ih =>
    have spaces : ∀ c, isWhiteSpace c = true → c ∉ foreign := by
      intro c space bad
      rw [not_isWhiteSpace_of_foreign bad] at space
      cases space
    intro c mem
    rcases List.mem_append.1 mem with mem | mem
    · rcases List.mem_append.1 mem with mem | mem
      · exact spaces c (hb c mem)
      · exact ih c mem
    · exact spaces c (ha c mem)
  | primitive h => exact not_foreign_of_isName (isName_of_mem_primitives h)
  | className _ wf => exact not_foreign_of_isName wf
  | nullable _ ih =>
    intro c mem
    rcases List.mem_append.1 mem with mem | mem
    · exact ih c mem
    · rw [List.mem_singleton.1 mem]
      decide
  | array _ ih =>
    intro c mem
    rcases List.mem_append.1 mem with mem | mem
    · rcases List.mem_cons.1 mem with rfl | mem
      · decide
      · exact ih c mem
    · rw [List.mem_singleton.1 mem]
      decide

/-! ## From a notation to the text of its type -/

theorem text_of_mem_primitives {name : String} {t : Ty} (h : (name, t) ∈ primitives) :
    t.text = name := by
  have all : ∀ p ∈ primitives, p.2.text = p.1 := by decide
  exact all (name, t) h

theorem Denotes.toList_text {cs : List Char} {t : Ty} (h : Denotes cs t) :
    t.text.toList = withoutWhiteSpace cs := by
  induction h with
  | blank hb ha _ ih =>
    rw [withoutWhiteSpace_append, withoutWhiteSpace_append, withoutWhiteSpace_of_blank hb,
      withoutWhiteSpace_of_blank ha, List.nil_append, List.append_nil, ih]
  | primitive h =>
    rw [text_of_mem_primitives h, withoutWhiteSpace_of_isName (isName_of_mem_primitives h)]
  | className _ wf => rw [withoutWhiteSpace_of_isName wf, text]
  | nullable _ ih =>
    rw [toList_text_nullable, withoutWhiteSpace_append, ih]
    rfl
  | @array body _ _ ih =>
    have front : withoutWhiteSpace ('[' :: body) = '[' :: withoutWhiteSpace body := rfl
    rw [toList_text_array, withoutWhiteSpace_append, front, ih]
    rfl

/-- A type with a notation is read back from its displayed text, whatever names of classes it
mentions as long as they are names of the notation. The displayed text of any other type is refused,
never taken for the notation of another type. A notation is displayed without its white space. -/
theorem text_round_trip :
    (∀ t : Ty, (∀ name ∈ t.classNames, IsClassName name) → t.hasNotation = true →
      parse t.text = .ok t) ∧
    (∀ t : Ty, t.hasNotation = false → ∃ error, parse t.text = .error error) ∧
    ∀ (source : String) (t : Ty), parse source = .ok t →
      t.text = String.ofList (withoutWhiteSpace source.toList) := by
  refine ⟨fun t wf written => ofChars_of_denotes (denotes_text wf written), fun t foreign => ?_,
    fun source t read => ?_⟩
  · cases outcome : parse t.text with
    | error error => exact ⟨error, rfl⟩
    | ok u =>
      obtain ⟨c, mem, bad⟩ := exists_foreign foreign
      exact absurd bad ((denotes_of_ofChars outcome).not_foreign c mem)
  · rw [← (denotes_of_ofChars read).toList_text, String.ofList_toList]

theorem text_round_trip_orders :
    parse "[Order]?" = .ok (.nullable (.array (.named "Order"))) ∧
    (∃ error, parse "fn() int?" = .error error) ∧
    (nullable (.array .int)).text = String.ofList (withoutWhiteSpace " [ int\t] ?".toList) := by
  obtain ⟨read, refused, displayed⟩ := text_round_trip
  have wf : ∀ name ∈ (nullable (.array (.named "Order"))).classNames, IsClassName name := by
    intro name mem
    rw [List.mem_singleton.1 mem]
    refine ⟨by decide +kernel, fun t primitive => ?_⟩
    have others : ∀ p ∈ primitives, p.1 ≠ "Order" := by decide
    exact others _ primitive rfl
  refine ⟨read _ wf rfl, refused (func [] (.nullable .int)) rfl, displayed _ _ ?_⟩
  cbv

end Ty

end ExpressionGraphs
