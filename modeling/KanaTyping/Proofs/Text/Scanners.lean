/-!
# Text — scanners

A *scanner* takes a text one character at a time.  It may refuse a character, and at the end of the
text it gives a result or fails.  A scanner is *live* when from every state some text leads to a
result: then all that it has taken so far can still be completed, and the character it refuses is
the first behind which nothing can be.

* `completable_iff`: what a live scanner takes is what can be completed.
* `exists_refused`: the character that is refused; nothing behind it changes the error
  (`read_of_refused`), and a live scanner cannot refuse any sooner (`firstDead_of_refused`).
* `feedAll_invariant`: what every character keeps holds of all that has been taken.
-/

namespace KanaTyping.Text

/-- Some text that starts with `text` is read. -/
def Completable {ε α : Type} (read : List Char → Except ε α) (text : List Char) : Prop :=
  ∃ more result, read (text ++ more) = .ok result

/-- `q` is the shortest prefix of `text` that no continuation completes. -/
structure FirstDead {ε α : Type} (read : List Char → Except ε α) (q text : List Char) : Prop where
  starts : q <+: text
  dead : ¬ Completable read q
  shorter : ∀ p, p <+: q → p ≠ q → Completable read p

/-- What reads a text one character at a time: how far each character moves the position, what it
does to the state, and what the state gives at the end. -/
structure Scanner (σ ε α : Type) where
  size : Char → Nat
  feed : (pos : Nat) → Char → σ → Except ε σ
  finish : σ → Except ε α

namespace Scanner

variable {σ ε α : Type} (x : Scanner σ ε α)

/-- The position behind a text that starts at `pos`. -/
def behind (pos : Nat) (text : List Char) : Nat :=
  text.foldl (fun pos c => pos + x.size c) pos

/-- The state after the characters of a text, the first of which stands at `pos`. -/
def feedAll (pos : Nat) (s : σ) : List Char → Except ε σ
  | [] => .ok s
  | c :: cs => (x.feed pos c s).bind fun t => feedAll (pos + x.size c) t cs

/-- Reads a text from the state `s`. -/
def read (s : σ) (text : List Char) : Except ε α :=
  (x.feedAll 0 s text).bind x.finish

/-- From every state some text leads to a result. -/
def Live : Prop :=
  ∀ pos s, ∃ text t result, x.feedAll pos s text = .ok t ∧ x.finish t = .ok result

variable {x} {s t : σ} {e : ε} {pos : Nat} {c : Char} {text before more : List Char}

/-! ### Character by character -/

theorem feedAll_append (pos : Nat) (s : σ) (before more : List Char) :
    x.feedAll pos s (before ++ more) =
      (x.feedAll pos s before).bind fun t => x.feedAll (x.behind pos before) t more := by
  induction before generalizing pos s with
  | nil => rfl
  | cons c cs ih =>
      rw [List.cons_append, feedAll, feedAll]
      cases x.feed pos c s with
      | error e => rfl
      | ok t => exact ih (pos + x.size c) t

theorem feedAll_append_of_ok (h : x.feedAll pos s before = .ok t) (more : List Char) :
    x.feedAll pos s (before ++ more) = x.feedAll (x.behind pos before) t more := by
  rw [feedAll_append, h]
  rfl

/-- What has been taken was taken from the start. -/
theorem feedAll_of_append (h : x.feedAll pos s (before ++ more) = .ok t) :
    ∃ u, x.feedAll pos s before = .ok u ∧ x.feedAll (x.behind pos before) u more = .ok t := by
  rw [feedAll_append] at h
  cases hbefore : x.feedAll pos s before with
  | error e => rw [hbefore] at h; cases h
  | ok u => rw [hbefore] at h; exact ⟨u, rfl, h⟩

theorem feedAll_cons_eq_ok_iff :
    x.feedAll pos s (c :: more) = .ok t ↔
      ∃ u, x.feed pos c s = .ok u ∧ x.feedAll (pos + x.size c) u more = .ok t := by
  rw [feedAll]
  cases x.feed pos c s <;> simp [Except.bind]

theorem feedAll_singleton (pos : Nat) (c : Char) (s : σ) :
    x.feedAll pos s [c] = x.feed pos c s := by
  rw [feedAll]
  cases x.feed pos c s <;> rfl

/-- What the start satisfies and every character keeps holds of all that has been taken. -/
theorem feedAll_invariant {P : List Char → σ → Prop} (start : P [] s)
    (step : ∀ text t c u, P text t → x.feed (x.behind 0 text) c t = .ok u → P (text ++ [c]) u)
    (h : x.feedAll 0 s text = .ok t) : P text t := by
  -- the text is taken from its end, as the position and `P` are those behind what came before
  obtain ⟨rev, rfl⟩ : ∃ rev : List Char, text = rev.reverse := ⟨_, text.reverse_reverse.symm⟩
  induction rev generalizing t with
  | nil => cases h; exact start
  | cons c rev ih =>
      rw [List.reverse_cons] at h ⊢
      obtain ⟨u, hu, hc⟩ := feedAll_of_append h
      rw [feedAll_singleton] at hc
      exact step _ u c t (ih hu) hc

/-- A reader that goes through a text as the scanner does, and finishes as it does, reads what it
reads. -/
theorem read_eq_of_steps {f : Nat → σ → List Char → Except ε α}
    (hnil : ∀ pos s, f pos s [] = x.finish s)
    (hcons : ∀ pos s c cs, f pos s (c :: cs) =
      (x.feed pos c s).bind fun t => f (pos + x.size c) t cs) (s : σ) (text : List Char) :
    f 0 s text = x.read s text := by
  have hall : ∀ pos, f pos s text = (x.feedAll pos s text).bind x.finish := by
    induction text generalizing s with
    | nil => exact fun pos => hnil pos s
    | cons c cs ih =>
        intro pos
        rw [hcons, feedAll]
        cases x.feed pos c s with
        | error e => rfl
        | ok t => exact ih t _
  exact hall 0

/-! ### Where a text is refused -/

theorem exists_refused (h : x.feedAll pos s text = .error e) :
    ∃ before c more t, text = before ++ c :: more ∧ x.feedAll pos s before = .ok t ∧
      x.feed (x.behind pos before) c t = .error e := by
  induction text generalizing pos s with
  | nil => cases h
  | cons c cs ih =>
      rw [feedAll] at h
      cases hc : x.feed pos c s with
      | error e' =>
          rw [hc] at h
          cases h
          exact ⟨[], c, cs, s, rfl, rfl, hc⟩
      | ok t =>
          rw [hc] at h
          obtain ⟨before, c', more, u, rfl, hbefore, hrefused⟩ := ih h
          refine ⟨c :: before, c', more, u, rfl, ?_, hrefused⟩
          rw [feedAll, hc]
          exact hbefore

/-- A text is not read because its end gives no result, or because a character is refused. -/
theorem read_eq_error_iff :
    x.read s text = .error e ↔ (∃ t, x.feedAll 0 s text = .ok t ∧ x.finish t = .error e) ∨
      x.feedAll 0 s text = .error e := by
  rw [read]
  cases x.feedAll 0 s text with
  | error e' => simp [Except.bind]
  | ok t => simp [Except.bind]

theorem read_of_feedAll (h : x.feedAll 0 s text = .ok t) : x.read s text = x.finish t := by
  rw [read, h]
  rfl

/-- What a live scanner takes is what can be completed. -/
theorem completable_iff (hx : x.Live) :
    Completable (x.read s) text ↔ ∃ t, x.feedAll 0 s text = .ok t := by
  constructor
  · rintro ⟨more, result, h⟩
    rw [read] at h
    cases hall : x.feedAll 0 s (text ++ more) with
    | error e => rw [hall] at h; cases h
    | ok t =>
        obtain ⟨u, hu, -⟩ := feedAll_of_append hall
        exact ⟨u, hu⟩
  · rintro ⟨t, ht⟩
    obtain ⟨more, u, result, hmore, hresult⟩ := hx (x.behind 0 text) t
    refine ⟨more, result, ?_⟩
    rw [← feedAll_append_of_ok ht] at hmore
    rw [read_of_feedAll hmore, hresult]

/-- With a character that is refused, all that starts so is refused for the same reason. -/
theorem read_of_refused (hbefore : x.feedAll 0 s before = .ok t)
    (hrefused : x.feed (x.behind 0 before) c t = .error e) (more : List Char) :
    x.read s (before ++ [c] ++ more) = .error e := by
  have hend : x.feedAll 0 s (before ++ [c]) = .error e := by
    rw [feedAll_append_of_ok hbefore, feedAll_singleton, hrefused]
  refine read_eq_error_iff.mpr (.inr ?_)
  rw [feedAll_append, hend]
  rfl

/-- A live scanner refuses the first character behind which nothing can be completed. -/
theorem firstDead_of_refused (hx : x.Live) (hbefore : x.feedAll 0 s before = .ok t)
    (hrefused : x.feed (x.behind 0 before) c t = .error e) (more : List Char) :
    FirstDead (x.read s) (before ++ [c]) (before ++ c :: more) where
  starts := ⟨more, (List.append_cons before c more).symm⟩
  dead := by
    rintro ⟨rest, result, h⟩
    rw [read_of_refused hbefore hrefused] at h
    cases h
  shorter := by
    intro p hp hne
    obtain ⟨rest, rfl⟩ := (List.prefix_concat_iff.mp hp).resolve_left hne
    obtain ⟨u, hu, -⟩ := feedAll_of_append hbefore
    exact (completable_iff hx).mpr ⟨u, hu⟩

end Scanner

end KanaTyping.Text
