import Mathlib.Data.List.DropRight
import ExpressionGraphs.Ty.Denotation

set_option autoImplicit false

/-!
# The notation of types

Reading accepts a text exactly when it denotes a type, and that type is read. The layers of a text,
question marks at its end and brackets around it, peel off in one order only, so that a text that
denotes nothing has one remainder; the remainder decides the error.
-/

namespace ExpressionGraphs

namespace Text

theorem inRanges_of_apart {as bs : List (Nat × Nat)}
    (apart : ∀ b ∈ bs, ∀ a ∈ as, b.2 < a.1 ∨ a.2 < b.1) {n : Nat} (h : inRanges as n = true) :
    inRanges bs n = false := by
  refine Bool.of_not_eq_true fun other => ?_
  obtain ⟨a, a_mem, _, _⟩ := exists_range_of_inRanges h
  obtain ⟨b, b_mem, _, _⟩ := exists_range_of_inRanges other
  have := apart b b_mem a a_mem
  omega

theorem isWhiteSpace_of_isAlphabetic {c : Char} (h : isAlphabetic c = true) :
    isWhiteSpace c = false :=
  inRanges_of_apart (by decide +kernel) h

theorem isWhiteSpace_of_isNumeric {c : Char} (h : isNumeric c = true) : isWhiteSpace c = false :=
  inRanges_of_apart (by decide +kernel) h

/-! ## White space around a text -/

theorem trimStart_cons {c : Char} (h : isWhiteSpace c = false) (cs : List Char) :
    trimStart (c :: cs) = c :: cs :=
  List.dropWhile_cons_of_neg (ne_true_of_eq_false h)

theorem trimEnd_concat {c : Char} (h : isWhiteSpace c = false) (cs : List Char) :
    trimEnd (cs ++ [c]) = cs ++ [c] :=
  List.rdropWhile_concat_neg isWhiteSpace cs c (ne_true_of_eq_false h)

theorem trim_blank {before body after : List Char} (hb : ∀ c ∈ before, isWhiteSpace c = true)
    (ha : ∀ c ∈ after, isWhiteSpace c = true) : trim (before ++ body ++ after) = trim body := by
  rw [trim, trimStart, List.append_assoc, List.dropWhile_append_of_pos hb, List.dropWhile_append]
  split
  · rename_i empty
    rw [List.dropWhile_eq_nil_iff.2 ha, trim, trimStart, List.isEmpty_iff.1 empty]
  · rw [trim, trimStart, trimEnd, trimEnd, List.reverse_append, List.dropWhile_append_of_pos]
    exact fun c mem => ha c (List.mem_reverse.1 mem)

theorem exists_trim (cs : List Char) :
    ∃ before after, cs = before ++ trim cs ++ after ∧ (∀ c ∈ before, isWhiteSpace c = true) ∧
      ∀ c ∈ after, isWhiteSpace c = true := by
  refine ⟨cs.takeWhile isWhiteSpace, (trimStart cs).rtakeWhile isWhiteSpace, ?_,
    fun c mem => List.mem_takeWhile_imp mem, fun c mem => List.mem_rtakeWhile_imp mem⟩
  have inner : trim cs ++ (trimStart cs).rtakeWhile isWhiteSpace = trimStart cs :=
    List.rdropWhile_append_rtakeWhile
  rw [List.append_assoc, inner]
  exact List.takeWhile_append_dropWhile.symm

theorem trim_trimStart (cs : List Char) : trim (trimStart cs) = trim cs := by
  rw [trim, trimStart, trimStart, List.dropWhile_idempotent]
  rfl

end Text

namespace TyError

def ofRemainder : List Char → TyError
  | [] => .empty
  | '[' :: rest => .unterminatedArray (String.ofList ('[' :: rest))
  | core => .invalidName (String.ofList core)

def complaint : List Char → String
  | [] => "empty type name"
  | '[' :: rest => "unterminated array type `" ++ String.ofList ('[' :: rest) ++ "`"
  | core => "invalid type name `" ++ String.ofList core ++ "`"

theorem ofRemainder_cons_of_ne {c : Char} (h : c ≠ '[') (rest : List Char) :
    ofRemainder (c :: rest) = .invalidName (String.ofList (c :: rest)) := by
  unfold ofRemainder
  split
  · rename_i shape
    cases shape
  · rename_i shape
    cases shape
    exact absurd rfl h
  · rfl

theorem message_ofRemainder (core : List Char) : (ofRemainder core).message = complaint core := by
  unfold ofRemainder complaint
  split <;> rfl

end TyError

theorem isWhiteSpace_of_isNamePart {c : Char} (h : isNamePart c = true) :
    Text.isWhiteSpace c = false := by
  simp only [isNamePart, Bool.or_eq_true, decide_eq_true_eq] at h
  rcases h with (alphabetic | numeric) | rfl
  · exact Text.isWhiteSpace_of_isAlphabetic alphabetic
  · exact Text.isWhiteSpace_of_isNumeric numeric
  · decide

theorem isNamePart_of_isName {cs : List Char} (h : isName cs = true) :
    ∀ c ∈ cs, isNamePart c = true := by
  cases cs with
  | nil => cases h
  | cons c cs => exact List.all_eq_true.1 (Bool.and_eq_true_iff.1 h).2

theorem trim_of_isName {cs : List Char} (h : isName cs = true) : Text.trim cs = cs := by
  have inside : ∀ c ∈ cs, ¬ Text.isWhiteSpace c = true := fun c mem =>
    ne_true_of_eq_false (isWhiteSpace_of_isNamePart (isNamePart_of_isName h c mem))
  have front : Text.trimStart cs = cs :=
    List.dropWhile_eq_self_iff.2 fun pos => inside _ (List.getElem_mem pos)
  rw [Text.trim, front]
  exact List.rdropWhile_eq_self_iff.2 fun nonempty => inside _ (List.getLast_mem nonempty)

namespace Ty

open Text

/-! ## Layers and names -/

theorem primitive?_eq_some_iff {name : String} {t : Ty} :
    primitive? name = some t ↔ (name, t) ∈ primitives := by
  constructor
  · intro h
    unfold primitive? at h
    split_ifs at h <;> cases h <;> subst name <;> decide
  · have all : ∀ p ∈ primitives, primitive? p.1 = some p.2 := by decide
    exact all (name, t)

theorem isName_of_mem_primitives {name : String} {t : Ty} (h : (name, t) ∈ primitives) :
    isName name.toList = true := by
  have all : ∀ p ∈ primitives, isName p.1.toList = true := by decide
  exact all (name, t) h

theorem ofChars_congr {as bs : List Char} (h : trim as = trim bs) : ofChars as = ofChars bs := by
  cases shape : trim bs with
  | nil => rw [ofChars_of_trim_eq_nil shape, ofChars_of_trim_eq_nil (h.trans shape)]
  | cons c rest =>
    rw [ofChars_of_trim_eq_cons shape, ofChars_of_trim_eq_cons (h.trans shape)]

theorem ofChars_nullable (body : List Char) :
    ofChars (body ++ ['?']) = nullable <$> ofChars body := by
  have front : trimStart (body ++ ['?']) = trimStart body ++ ['?'] := by
    rw [trimStart, List.dropWhile_append]
    split
    · rename_i empty
      rw [trimStart, List.isEmpty_iff.1 empty]
      rfl
    · rfl
  have shape : trim (body ++ ['?']) = trimStart body ++ ['?'] := by
    rw [trim, front]
    exact trimEnd_concat (by decide) _
  obtain ⟨c, rest, split⟩ := List.exists_cons_of_ne_nil (List.concat_ne_nil '?' (trimStart body))
  rw [ofChars_of_trim_eq_cons (shape.trans split), ← split, List.getLast?_concat, if_pos rfl,
    List.dropLast_concat, ofChars_congr (trim_trimStart body)]

theorem ofChars_array (body : List Char) :
    ofChars ('[' :: body ++ [']']) = array <$> ofChars body := by
  have shape : trim ('[' :: body ++ [']']) = '[' :: (body ++ [']']) := by
    rw [trim, List.cons_append, trimStart_cons (by decide)]
    exact trimEnd_concat (by decide) ('[' :: body)
  have last : ('[' :: body ++ [']']).getLast? = some ']' := List.getLast?_concat
  rw [List.cons_append] at last
  rw [ofChars_of_trim_eq_cons shape, last, if_neg (by decide), if_pos rfl, List.getLast?_concat,
    if_pos rfl, List.dropLast_concat]

theorem ofChars_of_isName {cs : List Char} (h : isName cs = true) : ofChars cs = ofName cs := by
  cases cs with
  | nil => cases h
  | cons c rest =>
    have parts := isNamePart_of_isName h
    rw [ofChars_of_trim_eq_cons (trim_of_isName h), if_neg, if_neg]
    · rintro rfl
      exact absurd (parts '[' List.mem_cons_self) (by decide)
    · intro last
      exact absurd (parts '?' (List.mem_of_getLast? last)) (by decide)

theorem ofChars_of_denotes {cs : List Char} {t : Ty} (h : Denotes cs t) : ofChars cs = .ok t := by
  induction h with
  | blank hb ha _ ih => rw [ofChars_congr (trim_blank hb ha), ih]
  | primitive h =>
    rw [ofChars_of_isName (isName_of_mem_primitives h), ofName, String.ofList_toList,
      primitive?_eq_some_iff.2 h]
  | @className name other wf =>
    have no_primitive : primitive? name = none := by
      refine Option.eq_none_iff_forall_ne_some.2 fun t found => other t ?_
      exact primitive?_eq_some_iff.1 found
    rw [ofChars_of_isName wf, ofName, String.ofList_toList, no_primitive]
    exact if_pos wf
  | nullable _ ih => rw [ofChars_nullable, ih]; rfl
  | array _ ih => rw [ofChars_array, ih]; rfl

theorem denotes_of_trim {cs : List Char} {t : Ty} (h : Denotes (trim cs) t) : Denotes cs t := by
  obtain ⟨before, after, whole, hb, ha⟩ := exists_trim cs
  rw [whole]
  exact .blank hb ha h

theorem denotes_of_ofName {cs : List Char} {t : Ty} (h : ofName cs = .ok t) : Denotes cs t := by
  have back : (String.ofList cs).toList = cs := String.toList_ofList
  unfold ofName at h
  split at h
  · rename_i found
    cases h
    rw [← back]
    exact .primitive (primitive?_eq_some_iff.1 found)
  · rename_i none_found
    split at h
    · rename_i wf
      cases h
      rw [← back] at wf
      have denoted : Denotes (String.ofList cs).toList (named (String.ofList cs)) := by
        refine .className (fun t mem => ?_) wf
        rw [primitive?_eq_some_iff.2 mem] at none_found
        cases none_found
      rwa [back] at denoted
    · cases h

theorem exists_of_map_eq_ok {α β ε : Type} {c : Except ε α} {f : α → β} {b : β}
    (h : f <$> c = .ok b) : ∃ a, c = .ok a ∧ f a = b := by
  cases c with
  | error e => cases h
  | ok a =>
    cases h
    exact ⟨a, rfl, rfl⟩

theorem eq_of_getLast? {α : Type} {l : List α} {a : α} (h : l.getLast? = some a) :
    l = l.dropLast ++ [a] := (List.dropLast_append_getLast? a h).symm

theorem denotes_of_ofChars {cs : List Char} {t : Ty} (h : ofChars cs = .ok t) : Denotes cs t := by
  fun_induction ofChars cs generalizing t with
  | case1 => cases h
  | case2 cs c rest shape last ih =>
    obtain ⟨inner, read, rfl⟩ := exists_of_map_eq_ok h
    refine denotes_of_trim ?_
    rw [shape, eq_of_getLast? last]
    exact .nullable (ih read)
  | case3 cs rest last shape _ ih =>
    obtain ⟨inner, read, rfl⟩ := exists_of_map_eq_ok h
    refine denotes_of_trim ?_
    rw [shape, eq_of_getLast? last]
    exact .array (ih read)
  | case4 => cases h
  | case5 cs c rest shape =>
    refine denotes_of_trim ?_
    rw [shape]
    exact denotes_of_ofName h

/-! ## What remains of a text that denotes nothing -/

theorem Peels.eq {cs body other : List Char} (h : Peels cs body) (h' : Peels cs other) :
    body = other := by
  cases h with
  | nullable h =>
    cases h' with
    | nullable h' => exact List.append_cancel_right (h.symm.trans h')
    | array h' =>
      have := List.append_inj_right' (h.symm.trans h') rfl
      cases this
  | array h =>
    cases h' with
    | nullable h' =>
      have := List.append_inj_right' (h.symm.trans h') rfl
      cases this
    | array h' => exact List.append_cancel_right (List.cons.inj (h.symm.trans h')).2

theorem Remains.eq {cs core other : List Char} (h : Remains cs core) (h' : Remains cs other) :
    core = other := by
  induction h with
  | last stuck =>
    cases h' with
    | last => rfl
    | layer peels => exact absurd peels (stuck _)
  | layer peels _ ih =>
    cases h' with
    | last stuck => exact absurd peels (stuck _)
    | layer peels' inner =>
      rw [peels.eq peels'] at ih
      exact ih inner

theorem not_peels {cs : List Char} (mark : (trim cs).getLast? ≠ some '?')
    (bracket : ∀ rest, trim cs = '[' :: rest → rest.getLast? ≠ some ']') (body : List Char) :
    ¬ Peels cs body := by
  rintro (h | h)
  · rw [h] at mark
    exact mark List.getLast?_concat
  · exact bracket _ h List.getLast?_concat

theorem error_of_map_eq_error {α β ε : Type} {c : Except ε α} {f : α → β} {e : ε}
    (h : f <$> c = .error e) : c = .error e := by
  cases c with
  | error e' =>
    cases h
    rfl
  | ok a => cases h

theorem ofName_eq_error {cs : List Char} {error : TyError} (h : ofName cs = .error error) :
    error = .invalidName (String.ofList cs) := by
  unfold ofName at h
  split at h
  · cases h
  · split at h <;> cases h
    rfl

theorem remains_of_ofChars {cs : List Char} {error : TyError} (h : ofChars cs = .error error) :
    ∃ core, Remains cs core ∧ error = .ofRemainder core := by
  fun_induction ofChars cs with
  | case1 cs shape =>
    cases h
    refine ⟨trim cs, .last (not_peels ?_ ?_), ?_⟩ <;> rw [shape]
    · exact nofun
    · exact nofun
    · rfl
  | case2 cs c rest shape last ih =>
    obtain ⟨core, remains, rfl⟩ := ih (error_of_map_eq_error h)
    exact ⟨core, .layer (.nullable (shape.trans (eq_of_getLast? last))) remains, rfl⟩
  | case3 cs rest last shape _ ih =>
    obtain ⟨core, remains, rfl⟩ := ih (error_of_map_eq_error h)
    refine ⟨core, .layer (.array (shape.trans ?_)) remains, rfl⟩
    exact congrArg (List.cons '[') (eq_of_getLast? last)
  | case4 cs rest no_bracket shape no_mark =>
    cases h
    refine ⟨trim cs, .last (not_peels ?_ ?_), ?_⟩ <;> rw [shape]
    · exact no_mark
    · rintro _ ⟨⟩
      exact no_bracket
    · rfl
  | case5 cs c rest shape no_mark no_bracket =>
    rw [ofName_eq_error h]
    refine ⟨trim cs, .last (not_peels ?_ ?_), ?_⟩ <;> rw [shape]
    · exact no_mark
    · rintro _ ⟨⟩
      exact absurd rfl no_bracket
    · exact (TyError.ofRemainder_cons_of_ne no_bracket rest).symm

/-- A text is read as a type exactly when it denotes that type, so that it denotes one at most.
Where it denotes none, what remains of it under its layers decides the error. -/
theorem parse_exact (source : String) :
    (∀ t, parse source = .ok t ↔ Denotes source.toList t) ∧
    (∀ t u, Denotes source.toList t → Denotes source.toList u → t = u) ∧
    ∀ error, parse source = .error error ↔
      (∀ t, ¬ Denotes source.toList t) ∧
        ∃ core, Remains source.toList core ∧ error = .ofRemainder core ∧
          error.message = TyError.complaint core := by
  have read : ∀ t, parse source = .ok t ↔ Denotes source.toList t := fun t =>
    ⟨denotes_of_ofChars, ofChars_of_denotes⟩
  refine ⟨read, fun t u first second => ?_,
    fun error => ⟨fun fails => ⟨fun t denotes => ?_, ?_⟩, ?_⟩⟩
  · exact Except.ok.inj (((read t).2 first).symm.trans ((read u).2 second))
  · cases ((read t).2 denotes).symm.trans fails
  · obtain ⟨core, remains, rfl⟩ := remains_of_ofChars fails
    exact ⟨core, remains, rfl, TyError.message_ofRemainder core⟩
  · rintro ⟨nothing, core, remains, rfl, _⟩
    cases outcome : parse source with
    | ok t => exact absurd ((read t).1 outcome) (nothing t)
    | error error =>
      obtain ⟨other, remains', rfl⟩ := remains_of_ofChars outcome
      rw [remains.eq remains']

example : parse " [ int ? ] " = .ok (.array (.nullable .int)) := by cbv

/-- The question mark peels off first, and leaves a bracket that nothing closes. -/
example : parse "[int?" = .error (.unterminatedArray "[int") := by cbv

end Ty

end ExpressionGraphs
