import KanaTyping.Proofs.Lyrics.Stream

/-!
# Play — the greedy segmentation of a line

`Lexicon.segments x kana` cuts a list of kana from the left: it takes the unit of three kana at
the front, else the unit of two, else the unit of one, and where there is none it skips a kana.
It is said by looking keys up (`Lexicon.front`), with no cursor and no window.

* `take_eq_front`: what `Lexicon.take` finds at a cursor is told by the kana unread alone.
* `take_spec`: it is the first segment of them, and it leaves the cursor after them.
* `width_segments`: the segments are as wide as the kana.
* `exists_find_of_mem_segments`: every unit among them is one that the lexicon knows.
-/

namespace KanaTyping

namespace Segment

/-- The number of kana of the segment. -/
def size : Segment → Nat
  | unit _ n => n
  | skipped _ => 1

/-- The spelling by which the segment is typed, if it is a unit. -/
def spelling? : Segment → Option Spelling
  | unit s _ => some s
  | skipped _ => none

/-- The number of kana of the segments together. -/
def width : (gs : List Segment) → Nat
  | [] => 0
  | g :: gs => g.size + width gs

/-- The spellings of the units among the segments. -/
def spellings (gs : List Segment) : List Spelling :=
  gs.filterMap spelling?

@[simp] theorem width_append (gs hs : List Segment) : width (gs ++ hs) = width gs + width hs := by
  induction gs with
  | nil => simp [width]
  | cons g gs ih => simp only [List.cons_append, width, ih, Nat.add_assoc]

@[simp] theorem spellings_append (gs hs : List Segment) :
    spellings (gs ++ hs) = spellings gs ++ spellings hs := by
  simp [spellings]

@[simp] theorem spellings_cons_unit (s : Spelling) (n : Nat) (gs : List Segment) :
    spellings (.unit s n :: gs) = s :: spellings gs := rfl

@[simp] theorem spellings_cons_skipped (c : Char) (gs : List Segment) :
    spellings (.skipped c :: gs) = spellings gs := rfl

end Segment

namespace Lexicon

variable {x : Lexicon} {kana : List Char}

/-- The spelling of the first `n` kana, if there are so many, with their number. -/
def frontOf (x : Lexicon) (kana : List Char) (n : Nat) : Option (Spelling × Nat) :=
  if n ≤ kana.length then (x.find (kana.take n)).map (·, n) else none

/-- The unit at the front of `kana`: of three kana, else of two, else of one. -/
def front (x : Lexicon) (kana : List Char) : Option (Spelling × Nat) :=
  x.frontOf kana 3 <|> x.frontOf kana 2 <|> x.frontOf kana 1

theorem frontOf_eq_some {n m : Nat} {s : Spelling} (h : x.frontOf kana n = some (s, m)) :
    m = n ∧ n ≤ kana.length ∧ x.find (kana.take n) = some s := by
  rw [frontOf] at h
  split at h
  · next hle =>
    obtain ⟨t, ht, e⟩ := Option.map_eq_some_iff.mp h
    cases e
    exact ⟨rfl, hle, ht⟩
  · cases h

/-- A unit at the front has one to three kana, all of them there, and is in the lexicon. -/
theorem front_eq_some {s : Spelling} {n : Nat} (h : x.front kana = some (s, n)) :
    1 ≤ n ∧ n ≤ 3 ∧ n ≤ kana.length ∧ x.find (kana.take n) = some s := by
  simp only [front, Option.orElse_eq_orElse, Option.orElse_eq_or, Option.or_eq_some_iff] at h
  rcases h with h | ⟨-, h | ⟨-, h⟩⟩ <;>
    obtain ⟨rfl, hle, hf⟩ := frontOf_eq_some h <;> exact ⟨by decide, by decide, hle, hf⟩

/-- `Lexicon.longest` is the unit at the front. -/
theorem longest_eq_front (x : Lexicon) (kana : List Char) : x.longest kana = x.front kana := by
  rcases kana with _ | ⟨a, _ | ⟨b, _ | ⟨c, rest⟩⟩⟩ <;> simp [longest, front, frontOf]

/-- Three kana are enough to see the unit at the front. -/
theorem front_take_three (x : Lexicon) (kana : List Char) :
    x.front (kana.take 3) = x.front kana := by
  rcases kana with _ | ⟨a, _ | ⟨b, _ | ⟨c, rest⟩⟩⟩ <;> simp [front, frontOf]

/-- The segments of `kana`, from the left. -/
def segments (x : Lexicon) (kana : List Char) : List Segment :=
  match kana with
  | [] => []
  | c :: cs =>
    match _h : x.front (c :: cs) with
    | some (s, n) => .unit s n :: segments x ((c :: cs).drop n)
    | none => .skipped c :: segments x cs
termination_by kana.length
decreasing_by
  · have := front_eq_some _h
    rw [List.length_drop, List.length_cons]
    omega
  · exact Nat.lt_succ_self _

@[simp] theorem segments_nil (x : Lexicon) : x.segments [] = [] := by
  rw [segments]

theorem segments_of_front {s : Spelling} {n : Nat} (h : x.front kana = some (s, n)) :
    x.segments kana = .unit s n :: x.segments (kana.drop n) := by
  cases kana with
  | nil => have := front_eq_some h; simp at this; omega
  | cons c cs =>
      rw [segments]
      split
      · next e => rw [h] at e; cases e; rfl
      · next e => rw [h] at e; cases e

theorem segments_of_front_none {c : Char} {cs : List Char} (h : x.front (c :: cs) = none) :
    x.segments (c :: cs) = .skipped c :: x.segments cs := by
  rw [segments]
  split
  · next e => rw [h] at e; cases e
  · rfl

/-- The segments are as wide as the kana. -/
theorem width_segments (x : Lexicon) (kana : List Char) :
    Segment.width (x.segments kana) = kana.length := by
  fun_induction segments x kana with
  | case1 => rfl
  | case2 c cs s n h ih =>
      have := front_eq_some h
      rw [Segment.width, ih, List.length_drop, Segment.size]
      omega
  | case3 c cs h ih =>
      rw [Segment.width, ih, Segment.size, List.length_cons]
      omega

/-- Every segment has kana. -/
theorem size_pos_of_mem_segments {g : Segment} (h : g ∈ x.segments kana) : 0 < g.size := by
  fun_induction segments x kana with
  | case1 => cases h
  | case2 c cs s n hf ih =>
      rcases List.mem_cons.mp h with rfl | h
      · exact (front_eq_some hf).1
      · exact ih h
  | case3 c cs _ ih =>
      rcases List.mem_cons.mp h with rfl | h
      · exact Nat.one_pos
      · exact ih h

/-- A unit of a line is one that the lexicon knows. -/
theorem exists_find_of_mem_segments {s : Spelling} {n : Nat}
    (h : .unit s n ∈ x.segments kana) : ∃ key, x.find key = some s := by
  fun_induction segments x kana with
  | case1 => cases h
  | case2 c cs s' n' hf ih =>
      rcases List.mem_cons.mp h with e | h
      · cases e
        exact ⟨_, (front_eq_some hf).2.2.2⟩
      · exact ih h
  | case3 c cs _ ih =>
      rcases List.mem_cons.mp h with e | h
      · cases e
      · exact ih h

/-! ### Segments at a cursor -/

variable {u v : Cursor} {g : Segment}

/-- At a cursor the unit at the front of the kana unread is taken, or else one kana is skipped. -/
theorem take_eq_front (hu : u.Settled) :
    x.take u = u.unread.head?.map fun c =>
      match x.front u.unread with
      | some (s, n) => (.unit s n, u.advanceBy n)
      | none => (.skipped c, u.advance) := by
  rw [take, hu.current_eq_head?, hu.window_eq_take, longest_eq_front, front_take_three]
  cases u.unread.head? with
  | none => rfl
  | some c => cases x.front u.unread <;> rfl

theorem take_eq_none_iff (hu : u.Settled) : x.take u = none ↔ u.unread = [] := by
  rw [take_eq_front hu, Option.map_eq_none_iff, List.head?_eq_none_iff]

/-- What is taken at a cursor is the first segment of the kana unread, and the cursor goes on by
the width of it. -/
theorem take_spec (hu : u.Settled) (h : x.take u = some (g, v)) :
    v = u.advanceBy g.size ∧ x.segments u.unread = g :: x.segments v.unread := by
  rw [take_eq_front hu, Option.map_eq_some_iff] at h
  obtain ⟨c, hc, h⟩ := h
  cases hf : x.front u.unread with
  | some f =>
      rw [hf] at h
      cases h
      exact ⟨rfl, by rw [segments_of_front hf, hu.unread_advanceBy]⟩
  | none =>
      obtain ⟨cs, hk⟩ := List.head?_eq_some_iff.mp hc
      rw [hf] at h
      cases h
      rw [hk] at hf
      exact ⟨rfl, by rw [hk, segments_of_front_none hf, hu.unread_advance, hk, List.tail_cons]⟩

end Lexicon

end KanaTyping
