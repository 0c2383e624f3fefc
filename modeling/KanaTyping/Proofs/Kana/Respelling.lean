import Mathlib.Data.List.Forall2
import KanaTyping.Kana.Lexicon

/-!
# Kana — the same text in another script

A text can be written anew with katakana in place of its hiragana, and with each Latin letter or
digit in another case or width.  `Respelt c d` says that `d` is what becomes of the character `c`.

* `Respelt.isKana_eq`: what is typed stays typed, and nothing else becomes so.
* `toKatakana_injOn`: apart from the katakana, no two characters become the same.
* `not_map_toKatakana_lt`: in the order of texts, the katakana of a text are not before it.
* `isLatin_iff`: the Latin letters and digits are the forms of the keys that stand for themselves.
* `Respelt.eq_map_toKatakana` and `Respelt.exists_isLatin`: a text without Latin letters and digits
  becomes its katakana, and one with some keeps some.
-/

namespace KanaTyping

/-! ### Classes of characters -/

/-- Whether `c` is the katakana of some hiragana. -/
def isKatakanaLetter (c : Char) : Bool := liesWithin 'ァ' 'ヶ' c

/-- Whether `c` is a Latin letter or digit, of either width. -/
def isLatin (c : Char) : Bool := c.isAlphanum || isFullwidthAlphanumeric c

/-- The forms of a key that stands for itself, in either case and width. -/
def latinForms (k : Char) : List Char :=
  [k, toFullwidth k, k.toLower, toFullwidth k.toLower]

/-- The key of a Latin letter or digit: its form in upper case and half width. -/
def latinKey (c : Char) : Char :=
  (if isFullwidthAlphanumeric c then Char.ofNat (c.toNat - ('Ａ'.toNat - 'A'.toNat))
    else c).toUpper

theorem liesWithin_iff {first last c : Char} :
    liesWithin first last c = true ↔ first.toNat ≤ c.toNat ∧ c.toNat ≤ last.toNat := by
  simp only [liesWithin, Bool.and_eq_true, decide_eq_true_eq, Char.le_def,
    UInt32.le_iff_toNat_le]
  rfl

/-- A range of characters is checked number by number. -/
theorem forall_liesWithin {first last : Char} {P : Char → Prop}
    (h : ∀ i < last.toNat + 1 - first.toNat, P (Char.ofNat (first.toNat + i))) {c : Char}
    (hc : liesWithin first last c = true) : P c := by
  obtain ⟨hfirst, hlast⟩ := liesWithin_iff.mp hc
  have hi := h (c.toNat - first.toNat) (by omega)
  rwa [Nat.add_sub_cancel' hfirst, Char.ofNat_toNat] at hi

/-! ### Katakana for hiragana -/

variable {c d : Char}

theorem toNat_toKatakana (h : isHiragana c = true) : (toKatakana c).toNat = c.toNat + 96 :=
  forall_liesWithin (P := fun c => (toKatakana c).toNat = c.toNat + 96) (by decide +kernel) h

theorem toKatakana_of_not_isHiragana (h : isHiragana c = false) : toKatakana c = c :=
  if_neg (Bool.eq_false_iff.mp h)

theorem lt_toKatakana (h : isHiragana c = true) : c < toKatakana c := by
  rw [Char.lt_def, UInt32.lt_iff_toNat_lt]
  exact Nat.lt_of_lt_of_eq (Nat.lt_add_of_pos_right (by decide)) (toNat_toKatakana h).symm

/-- The katakana of a text are not before it. -/
theorem not_map_toKatakana_lt (cs : List Char) : ¬cs.map toKatakana < cs := by
  induction cs with
  | nil => exact List.not_lt_nil _
  | cons c cs ih =>
      rw [List.map_cons, List.cons_lt_cons_iff, not_or, not_and]
      refine ⟨?_, fun _ => ih⟩
      cases hc : isHiragana c with
      | true => exact Char.lt_asymm (lt_toKatakana hc)
      | false =>
          rw [toKatakana_of_not_isHiragana hc]
          exact Char.lt_irrefl c

theorem isKatakanaLetter_toKatakana (h : isHiragana c = true) :
    isKatakanaLetter (toKatakana c) = true := by
  have hc := liesWithin_iff.mp h
  refine liesWithin_iff.mpr ?_
  rw [toNat_toKatakana h]
  exact ⟨Nat.add_le_add_right hc.1 96, Nat.add_le_add_right hc.2 96⟩

/-- A katakana letter is the katakana of hiragana alone. -/
theorem toKatakana_eq_self (h : isKatakanaLetter (toKatakana c) = false) : toKatakana c = c := by
  cases hc : isHiragana c with
  | false => exact toKatakana_of_not_isHiragana hc
  | true =>
      rw [isKatakanaLetter_toKatakana hc] at h
      cases h

/-- Apart from the katakana letters, no two characters have the same katakana. -/
theorem toKatakana_injOn (hc : isKatakanaLetter c = false) (hd : isKatakanaLetter d = false)
    (h : toKatakana c = toKatakana d) : c = d := by
  cases hc' : isHiragana c with
  | false =>
      rw [toKatakana_of_not_isHiragana hc'] at h
      exact h.trans (toKatakana_eq_self (h ▸ hc))
  | true =>
      cases hd' : isHiragana d with
      | false =>
          rw [toKatakana_of_not_isHiragana hd'] at h
          rw [← h, isKatakanaLetter_toKatakana hc'] at hd
          cases hd
      | true =>
          have hnum := congrArg Char.toNat h
          rw [toNat_toKatakana hc', toNat_toKatakana hd'] at hnum
          exact Char.toNat_inj.mp (Nat.add_right_cancel hnum)

/-! ### Latin letters and digits -/

theorem isLatin_of_mem_latinForms {k : Char} (hk : k ∈ Lexicon.latinKeys)
    (hc : c ∈ latinForms k) : isLatin c = true := by
  have all : (Lexicon.latinKeys.all fun k => (latinForms k).all isLatin) = true := by
    decide +kernel
  exact List.all_eq_true.mp (List.all_eq_true.mp all k hk) c hc

theorem isAlphanum_eq (c : Char) :
    c.isAlphanum = (liesWithin 'A' 'Z' c || liesWithin 'a' 'z' c || liesWithin '0' '9' c) := by
  have hupper : c.isUpper = liesWithin 'A' 'Z' c := Bool.decide_and _ _
  have hlower : c.isLower = liesWithin 'a' 'z' c := rfl
  have hdigit : c.isDigit = liesWithin '0' '9' c := rfl
  rw [← hupper, ← hlower, ← hdigit]
  rfl

/-- The Latin letters and digits are the forms of the keys that stand for themselves. -/
theorem isLatin_iff : isLatin c = true ↔ ∃ k ∈ Lexicon.latinKeys, c ∈ latinForms k := by
  constructor
  · intro h
    simp only [isLatin, isAlphanum_eq, isFullwidthAlphanumeric, Bool.or_eq_true] at h
    let P := fun c => (Lexicon.latinKeys.any fun k => (latinForms k).contains c) = true
    have hany : P c := by
      rcases h with ((h | h) | h) | ((h | h) | h) <;>
        exact forall_liesWithin (by decide +kernel) h
    obtain ⟨k, hk, hc⟩ := List.any_eq_true.mp hany
    exact ⟨k, hk, List.contains_iff_mem.mp hc⟩
  · rintro ⟨k, hk, hc⟩
    exact isLatin_of_mem_latinForms hk hc

/-- A form is one of a single key. -/
theorem latinKey_of_mem_latinForms {k : Char} (hk : k ∈ Lexicon.latinKeys)
    (hc : c ∈ latinForms k) : latinKey c = k := by
  have all : (Lexicon.latinKeys.all fun k => (latinForms k).all (latinKey · == k)) = true := by
    decide +kernel
  exact beq_iff_eq.mp (List.all_eq_true.mp (List.all_eq_true.mp all k hk) c hc)

theorem not_isLatin_of_isHiragana (h : isHiragana c = true) : isLatin c = false :=
  forall_liesWithin (P := fun c => isLatin c = false) (by decide +kernel) h

theorem not_isLatin_of_isKatakanaLetter (h : isKatakanaLetter c = true) : isLatin c = false :=
  forall_liesWithin (P := fun c => isLatin c = false) (by decide +kernel) h

theorem isLatin_toKatakana (c : Char) : isLatin (toKatakana c) = isLatin c := by
  cases h : isHiragana c with
  | false => rw [toKatakana_of_not_isHiragana h]
  | true =>
      rw [not_isLatin_of_isHiragana h,
        not_isLatin_of_isKatakanaLetter (isKatakanaLetter_toKatakana h)]

/-! ### Respelling -/

/-- What may become of a character: a hiragana becomes its katakana, a Latin letter or digit any of
its forms, and every other character stays. -/
inductive Respelt : Char → Char → Prop
  | katakana {c : Char} (hiragana : isHiragana c = true) : Respelt c (toKatakana c)
  | latin {c d k : Char} (key : k ∈ Lexicon.latinKeys) (form : c ∈ latinForms k)
      (form' : d ∈ latinForms k) : Respelt c d
  | other {c : Char} (hiragana : isHiragana c = false) (latin : isLatin c = false) : Respelt c c

namespace Respelt

theorem isLatin_eq (h : Respelt c d) : isLatin d = isLatin c := by
  cases h with
  | katakana => exact isLatin_toKatakana c
  | latin hk hc hd => rw [isLatin_of_mem_latinForms hk hc, isLatin_of_mem_latinForms hk hd]
  | other => rfl

/-- What is typed stays typed, and nothing else becomes so. -/
theorem isKana_eq (h : Respelt c d) : isKana d = isKana c := by
  have kana_of_latin : ∀ {c}, isLatin c = true → isKana c = true := by
    intro c hc
    rcases Bool.or_eq_true_iff.mp hc with hc | hc <;> simp [isKana, hc]
  cases h with
  | katakana hc =>
      have hletter := liesWithin_iff.mp (isKatakanaLetter_toKatakana hc)
      have hkatakana : isKatakana (toKatakana c) = true :=
        liesWithin_iff.mpr ⟨hletter.1, Nat.le_trans hletter.2 (by decide)⟩
      simp [isKana, hc, hkatakana]
  | latin hk hc hd =>
      rw [kana_of_latin (isLatin_of_mem_latinForms hk hc),
        kana_of_latin (isLatin_of_mem_latinForms hk hd)]
  | other => rfl

theorem eq_toKatakana (h : Respelt c d) (hc : isLatin c = false) : d = toKatakana c := by
  cases h with
  | katakana => rfl
  | latin hk hform _ =>
      rw [isLatin_of_mem_latinForms hk hform] at hc
      cases hc
  | other hhiragana _ => exact (toKatakana_of_not_isHiragana hhiragana).symm

theorem latinKey_eq (h : Respelt c d) (hc : isLatin c = true) : latinKey d = latinKey c := by
  cases h with
  | katakana hhiragana =>
      rw [not_isLatin_of_isHiragana hhiragana] at hc
      cases hc
  | latin hk hform hform' =>
      rw [latinKey_of_mem_latinForms hk hform, latinKey_of_mem_latinForms hk hform']
  | other => rfl

variable {cs ds : List Char}

/-- A text without Latin letters and digits becomes its katakana. -/
theorem eq_map_toKatakana (h : List.Forall₂ Respelt cs ds) (hcs : ∀ c ∈ cs, isLatin c = false) :
    ds = cs.map toKatakana := by
  induction h with
  | nil => rfl
  | cons hcd _ ih =>
      rw [List.forall_mem_cons] at hcs
      rw [List.map_cons, hcd.eq_toKatakana hcs.1, ih hcs.2]

/-- A text with Latin letters or digits keeps some. -/
theorem exists_isLatin (h : List.Forall₂ Respelt cs ds) (hcs : ∃ c ∈ cs, isLatin c = true) :
    ∃ d ∈ ds, isLatin d = true := by
  induction h with
  | nil => exact hcs
  | cons hcd _ ih =>
      rw [List.exists_mem_cons_iff] at hcs ⊢
      exact hcs.imp hcd.isLatin_eq.trans ih

end Respelt

/-! ### Katakana for a whole text -/

variable {cs ds : List Char}

/-- Apart from the katakana letters, no two texts become the same. -/
theorem map_toKatakana_injOn (hcs : ∀ c ∈ cs, isKatakanaLetter c = false)
    (hds : ∀ d ∈ ds, isKatakanaLetter d = false) (h : cs.map toKatakana = ds.map toKatakana) :
    cs = ds := by
  induction cs generalizing ds with
  | nil => simpa using h.symm
  | cons c cs ih =>
      cases ds with
      | nil => cases h
      | cons d ds =>
          rw [List.forall_mem_cons] at hcs hds
          rw [List.map_cons, List.map_cons, List.cons.injEq] at h
          rw [toKatakana_injOn hcs.1 hds.1 h.1, ih hcs.2 hds.2 h.2]

/-- A text without katakana letters comes of no text but itself. -/
theorem eq_of_eq_map_toKatakana (hcs : ∀ c ∈ cs, isKatakanaLetter c = false)
    (h : cs = ds.map toKatakana) : cs = ds := by
  subst h
  rw [List.forall_mem_map] at hcs
  exact (List.map_congr_left fun d hd => toKatakana_eq_self (hcs d hd)).trans (List.map_id ds)

end KanaTyping
