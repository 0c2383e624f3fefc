import Mathlib.Data.List.DropRight
import KanaTyping.Text.Blank
import KanaTyping.Text.Lines
import KanaTyping.Text.Number

/-!
# Text — lines, fields and numbers

What a text is cut into when it has been put together from pieces, and what the pieces of any text
are.

* `lines_flatMap`: lines, each with its line feed, are cut apart again; no line has a line feed in
  it (`notMem_of_mem_lines`).
* `lines_cons_newline` and `lines_cons`: the lines of any text, character by character.  So a piece
  without a line feed stands in one line (`exists_lines_append`).
* `fields_intercalate`: fields with a tab between each two are cut apart again, and the empty ones
  left out; every field is a piece of its line without a tab, and not empty (`mem_fields`).
* `natBelow_eq_some_iff`: what is read as a number (`Denotes`).  So a number is read back from its
  decimal digits (`natBelow_toString`), which have no blank among them (`trim_toString`).
-/

namespace KanaTyping.Text

variable {p : Char → Bool} {c x : Char} {cs line rest piece : List Char} {fs : List (List Char)}

/-! ### The ends of a text -/

theorem dropEnd_eq_rdropWhile (p : Char → Bool) (cs : List Char) :
    dropEnd p cs = cs.rdropWhile p := rfl

/-- A character that stays keeps all before it. -/
theorem dropEnd_append_cons (hc : p c = false) :
    dropEnd p (cs ++ c :: rest) = cs ++ c :: dropEnd p rest := by
  simp only [dropEnd_eq_rdropWhile]
  induction rest using List.reverseRecOn with
  | nil => exact List.rdropWhile_concat_neg p cs c (by simp [hc])
  | append_singleton rest d ih =>
      rw [← List.cons_append, ← List.append_assoc, List.rdropWhile_concat,
        List.rdropWhile_concat]
      split
      · exact ih
      · simp

/-- What comes off the end of the last piece comes off the whole. -/
theorem dropEnd_append_dropEnd (front cs : List Char) :
    dropEnd p (front ++ dropEnd p cs) = dropEnd p (front ++ cs) := by
  simp only [dropEnd_eq_rdropWhile]
  induction cs using List.reverseRecOn with
  | nil => rfl
  | append_singleton cs d ih =>
      cases hd : p d with
      | true =>
          rw [List.rdropWhile_concat_pos p cs d hd, ← List.append_assoc,
            List.rdropWhile_concat_pos p (front ++ cs) d hd, ih]
      | false => rw [List.rdropWhile_concat_neg p cs d (by simp [hd])]

theorem dropEnd_eq_self_iff : dropEnd p cs = cs ↔ ∀ c ∈ cs.getLast?, p c = false := by
  rw [dropEnd_eq_rdropWhile, List.rdropWhile_eq_self_iff]
  cases cs with
  | nil => simp
  | cons c cs => simp [List.getLast?_eq_some_getLast]

/-- Of fields with a tab between each two, the last one is at the end. -/
theorem dropEnd_intercalate (hp : p '\t' = false) (fs : List (List Char)) (last : List Char) :
    dropEnd p (['\t'].intercalate (fs ++ [last])) =
      ['\t'].intercalate (fs ++ [dropEnd p last]) := by
  induction fs with
  | nil => simp
  | cons f fs ih =>
      have hne : ∀ g, fs ++ [g] ≠ [] := by simp
      rw [List.cons_append, List.intercalate_cons_of_ne_nil (hne _), List.append_assoc,
        List.singleton_append, dropEnd_append_cons hp, ih, List.cons_append,
        List.intercalate_cons_of_ne_nil (hne _), List.append_assoc, List.singleton_append]

theorem dropEnd_subset (p : Char → Bool) (cs : List Char) : dropEnd p cs ⊆ cs :=
  (List.rdropWhile_prefix p cs).subset

theorem trim_eq_self (h : ∀ c ∈ cs, isBlank c = false) : trim cs = cs := by
  have hfront : cs.dropWhile isBlank = cs := by
    cases cs with
    | nil => rfl
    | cons c cs => rw [List.dropWhile_cons_of_neg (by simp [h c])]
  rw [trim, hfront, dropEnd_eq_self_iff]
  exact fun c hc => h c (List.mem_of_getLast? hc)

/-! ### Lines -/

/-- A piece of a text cut at each `x` has no `x` in it, and no character that is not in the text. -/
theorem mem_splitOn (h : piece ∈ cs.splitOn x) : x ∉ piece ∧ piece ⊆ cs := by
  induction cs generalizing piece with
  | nil => simp_all
  | cons c cs ih =>
      rw [List.splitOn_cons_eq_if_modifyHead] at h
      split at h
      · rcases List.mem_cons.mp h with rfl | h
        · simp
        · exact ⟨(ih h).1, List.subset_cons_of_subset c (ih h).2⟩
      · next hc =>
        -- the character joins the first piece
        obtain ⟨first, pieces, hsplit⟩ := List.exists_cons_of_ne_nil (List.splitOn_ne_nil x cs)
        rw [hsplit] at h ih
        rcases List.mem_cons.mp h with rfl | h
        · obtain ⟨hx, hsub⟩ := ih List.mem_cons_self
          have hxc : x ≠ c := fun e => hc (beq_iff_eq.mpr e.symm)
          exact ⟨List.not_mem_cons_of_ne_of_not_mem hxc hx, List.cons_subset_cons c hsub⟩
        · obtain ⟨hx, hsub⟩ := ih (List.mem_cons_of_mem first h)
          exact ⟨hx, List.subset_cons_of_subset c hsub⟩

theorem notMem_of_mem_lines (h : line ∈ lines cs) : '\n' ∉ line := by
  rw [lines] at h
  split at h
  · exact (mem_splitOn (List.dropLast_subset _ h)).1
  · exact (mem_splitOn h).1

/-- A line with its line feed is cut off. -/
theorem lines_append (h : '\n' ∉ line) (rest : List Char) :
    lines (line ++ '\n' :: rest) = line :: lines rest := by
  have hne : rest.splitOn '\n' ≠ [] := List.splitOn_ne_nil _ _
  simp only [lines, List.splitOn_append_cons_self_of_not_mem h, List.getLast?_cons_of_ne_nil hne,
    List.dropLast_cons_of_ne_nil hne]
  split <;> rfl

theorem lines_flatMap {ls : List (List Char)} (h : ∀ line ∈ ls, '\n' ∉ line) :
    lines (ls.flatMap (· ++ ['\n'])) = ls := by
  induction ls with
  | nil => rfl
  | cons line ls ih =>
      rw [List.forall_mem_cons] at h
      rw [List.flatMap_cons, List.append_assoc, List.singleton_append, lines_append h.1, ih h.2]

/-- A line feed at the front ends an empty line. -/
theorem lines_cons_newline (cs : List Char) : lines ('\n' :: cs) = [] :: lines cs :=
  lines_append List.not_mem_nil cs

/-- Any other character belongs to the first line. -/
theorem lines_cons (hc : c ≠ '\n') :
    lines (c :: cs) = (c :: (lines cs).head?.getD []) :: (lines cs).tail := by
  have hne := List.splitOn_ne_nil '\n' cs
  simp only [lines, List.splitOn_cons_eq_if_modifyHead]
  rcases h : cs.splitOn '\n' with _ | ⟨l, _ | ⟨l', ls⟩⟩
  · exact absurd h hne
  · by_cases hl : l = [] <;> simp [hc, hl]
  · by_cases hlast : (l' :: ls).getLast? = some [] <;>
      simp [hc, List.getLast?_cons_cons, hlast]

/-- A piece without a line feed stands in one line of the text, wherever it is put. -/
theorem exists_lines_append (front back : List Char) :
    ∃ before l r after, ∀ piece, '\n' ∉ piece → piece ≠ [] →
      lines (front ++ (piece ++ back)) = before ++ (l ++ (piece ++ r)) :: after := by
  induction front with
  | nil =>
      refine ⟨[], [], (lines back).head?.getD [], (lines back).tail, fun piece hpiece hne => ?_⟩
      induction piece with
      | nil => exact absurd rfl hne
      | cons c piece ih =>
          obtain ⟨hc, hpiece⟩ := List.ne_and_not_mem_of_not_mem_cons hpiece
          rw [List.nil_append, List.cons_append, lines_cons hc.symm]
          rcases eq_or_ne piece [] with rfl | hne
          · rfl
          · have htail := ih hpiece hne
            rw [List.nil_append] at htail
            rw [htail]
            rfl
  | cons c front ih =>
      obtain ⟨before, l, r, after, hfront⟩ := ih
      by_cases hc : c = '\n'
      · refine ⟨[] :: before, l, r, after, fun piece hpiece hne => ?_⟩
        rw [hc, List.cons_append, lines_cons_newline, hfront piece hpiece hne, List.cons_append]
      · cases before with
        | nil =>
            refine ⟨[], c :: l, r, after, fun piece hpiece hne => ?_⟩
            rw [List.cons_append, lines_cons hc, hfront piece hpiece hne]
            rfl
        | cons first before =>
            refine ⟨(c :: first) :: before, l, r, after, fun piece hpiece hne => ?_⟩
            rw [List.cons_append, lines_cons hc, hfront piece hpiece hne]
            rfl

/-- A line feed at the end ends the last line, or an empty one behind it. -/
theorem lines_append_newline (cs : List Char) :
    lines (cs ++ ['\n']) = lines cs ∨ lines (cs ++ ['\n']) = lines cs ++ [[]] := by
  have hwhole : lines (cs ++ ['\n']) = cs.splitOn '\n' := by
    simp [lines, List.splitOn_append_cons_self]
  rw [hwhole, lines]
  split
  · next hlast => exact .inr (List.dropLast_append_getLast? [] hlast).symm
  · exact .inl rfl

theorem lines_eq_nil_iff : lines cs = [] ↔ cs = [] := by
  cases cs with
  | nil => exact iff_of_true rfl rfl
  | cons c cs =>
      refine iff_of_false ?_ (List.cons_ne_nil c cs)
      by_cases hc : c = '\n'
      · rw [hc, lines_cons_newline]
        exact List.cons_ne_nil _ _
      · rw [lines_cons hc]
        exact List.cons_ne_nil _ _

/-! ### Fields -/

/-- A character of fields put together is the mark between them or stands in one of them. -/
theorem mem_intercalate (h : c ∈ [x].intercalate fs) : c = x ∨ ∃ f ∈ fs, c ∈ f := by
  induction fs with
  | nil => cases h
  | cons f fs ih =>
      rcases eq_or_ne fs [] with rfl | hne
      · exact .inr ⟨f, List.mem_cons_self, by simpa using h⟩
      · rw [List.intercalate_cons_of_ne_nil hne, List.append_assoc, List.mem_append,
          List.singleton_append, List.mem_cons] at h
        rcases h with h | h | h
        · exact .inr ⟨f, List.mem_cons_self, h⟩
        · exact .inl h
        · obtain hx | ⟨g, hg, hc⟩ := ih h
          · exact .inl hx
          · exact .inr ⟨g, List.mem_cons_of_mem f hg, hc⟩

/-- A tab parts the fields before it from those behind it. -/
theorem fields_append_tab (front back : List Char) :
    fields (front ++ '\t' :: back) = fields front ++ fields back := by
  simp only [fields, List.splitOn_append_cons_self, List.filter_append]

/-- Fields are cut apart at the tabs between them, and the empty ones left out. -/
theorem fields_intercalate (h : ∀ f ∈ fs, '\t' ∉ f) :
    fields (['\t'].intercalate fs) = fs.filter (!·.isEmpty) := by
  rcases eq_or_ne fs [] with rfl | hne
  · rfl
  · rw [fields, List.splitOn_intercalate '\t' h hne]

theorem mem_fields (h : piece ∈ fields line) : piece ≠ [] ∧ '\t' ∉ piece ∧ piece ⊆ line := by
  obtain ⟨hpiece, hne⟩ := List.mem_filter.mp h
  exact ⟨by simpa using hne, mem_splitOn hpiece⟩

/-! ### Numbers -/

theorem isBlank_of_isDigit (h : c.isDigit = true) : isBlank c = false := by
  obtain ⟨hlo, hhi⟩ := Char.isDigit_iff_toNat.mp h
  have hlo' : 48 ≤ c.toNat := hlo
  have hhi' : c.toNat ≤ 57 := hhi
  simp only [isBlank, Bool.or_eq_false_iff, Bool.and_eq_false_iff, decide_eq_false_iff_not,
    beq_eq_false_iff_ne]
  omega

/-- The text is the number `n`: decimal digits, with or without a plus sign in front. -/
def Denotes (cs : List Char) (n : Nat) : Prop :=
  ∃ ds, (cs = ds ∨ cs = '+' :: ds) ∧ ds ≠ [] ∧ (∀ c ∈ ds, c.isDigit = true) ∧
    Nat.ofDigitChars 10 ds 0 = n

variable {m n bound : Nat}

theorem digitsFrom_eq_some_iff :
    digitsFrom m cs = some n ↔
      (∀ c ∈ cs, c.isDigit = true) ∧ Nat.ofDigitChars 10 cs m = n := by
  induction cs generalizing m with
  | nil => simp [digitsFrom]
  | cons c cs ih =>
      rw [digitsFrom, List.forall_mem_cons, Nat.ofDigitChars_cons]
      split
      · next hc => rw [ih, and_iff_right hc]
      · next hc => simp [hc]

theorem digits_eq_some_iff :
    digits cs = some n ↔
      cs ≠ [] ∧ (∀ c ∈ cs, c.isDigit = true) ∧ Nat.ofDigitChars 10 cs 0 = n := by
  cases cs with
  | nil => simp [digits]
  | cons c cs => rw [digits, digitsFrom_eq_some_iff, and_iff_right (List.cons_ne_nil c cs)]

/-- What is read is a number below the bound. -/
theorem natBelow_eq_some_iff : natBelow bound cs = some n ↔ Denotes cs n ∧ n < bound := by
  have hplus : ¬ '+'.isDigit = true := by decide
  simp only [natBelow, Option.filter_eq_some_iff, digits_eq_some_iff, decide_eq_true_eq]
  refine and_congr_left fun _ => ?_
  split
  · next rest =>
    constructor
    · exact fun h => ⟨rest, .inr rfl, h⟩
    · rintro ⟨ds, rfl | hds, h⟩
      · exact absurd (h.2.1 '+' List.mem_cons_self) hplus
      · rwa [(List.cons_eq_cons.mp hds).2]
  · next hno =>
    constructor
    · exact fun h => ⟨cs, .inl rfl, h⟩
    · rintro ⟨ds, rfl | rfl, h⟩
      · exact h
      · exact absurd rfl (hno ds)

theorem isDigit_of_mem_toString (h : c ∈ (toString n).toList) : c.isDigit = true := by
  rw [Nat.toString_eq_repr, Nat.toList_repr] at h
  exact Nat.isDigit_of_mem_toDigits (by decide) (by decide) h

theorem notMem_toString (h : c.isDigit = false) (n : Nat) : c ∉ (toString n).toList := fun hc =>
  Bool.eq_false_iff.mp h (isDigit_of_mem_toString hc)

theorem toString_ne_nil (n : Nat) : (toString n).toList ≠ [] := by
  rw [Nat.toString_eq_repr, Nat.toList_repr]
  exact Nat.toDigits_ne_nil

theorem trim_toString (n : Nat) : trim (toString n).toList = (toString n).toList :=
  trim_eq_self fun _ hc => isBlank_of_isDigit (isDigit_of_mem_toString hc)

/-- A number is read back from its decimal digits. -/
theorem natBelow_toString (h : n < bound) : natBelow bound (toString n).toList = some n := by
  have hvalue : Nat.ofDigitChars 10 (toString n).toList 0 = n := by
    rw [Nat.toString_eq_repr, Nat.toList_repr]
    exact Nat.ofDigitChars_toDigits (by decide) (by decide)
  exact natBelow_eq_some_iff.mpr
    ⟨⟨_, .inl rfl, toString_ne_nil n, fun _ => isDigit_of_mem_toString, hvalue⟩, h⟩

end KanaTyping.Text
