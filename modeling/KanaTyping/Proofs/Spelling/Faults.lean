import KanaTyping.Proofs.Spelling.Grammar
import KanaTyping.Proofs.Text.Scanners

/-!
# Spellings — faults are found at the earliest place

The reader of the grammar is a live scanner (`live_scanner`): one more key character, and a `]` if a
bracket is open, make a spelling of every draft.  So a text is refused at the first character behind
which nothing can be completed, and otherwise only at its end.

* `feed_eq_error` and `finish_eq_error`: the faults that a character and the end can have.
* `Traces.feed`: a draft has read its text, and an open bracket stands where the draft says.
* `feedAll_keys`: a bracket stays open as long as no `]` comes.

`grammar_fault_earliest` puts them together.
-/

namespace KanaTyping.Spelling

/-- The text ends inside the set that the `[` at the byte `pos` opens: no `]` comes after it. -/
def EndsInSet (text : List Char) (pos : Nat) : Prop :=
  ∃ before keys, text = before ++ '[' :: keys ∧ ']' ∉ keys ∧
    pos = (String.ofList before).utf8ByteSize

/-- The fault names the end of the text: its last character by its byte, or the `[` of the `[]` that
it ends with. -/
inductive Fault.NamesEnd : Fault → (text : List Char) → Prop
  | unexpected (before : List Char) (c : Char) :
      NamesEnd (.unexpected c (String.ofList before).utf8ByteSize) (before ++ [c])
  | emptySet (before : List Char) :
      NamesEnd (.emptySet (String.ofList before).utf8ByteSize) (before ++ ['[', ']'])
  | danglingOptional (before : List Char) :
      NamesEnd (.danglingOptional (String.ofList before).utf8ByteSize) (before ++ ['?'])

namespace Draft

variable {d d' : Draft} {pos : Nat} {c : Char} {text keys : List Char} {done : List Step}
  {fault : Fault}

/-! ### The reader as a scanner -/

/-- The reader of the grammar. -/
def scanner : Text.Scanner Draft Fault Spelling where
  size := Char.utf8Size
  feed := feed
  finish := finish

theorem feed_scanner (pos : Nat) (c : Char) (d : Draft) : scanner.feed pos c d = d.feed pos c :=
  rfl

theorem readAll_eq_read (d : Draft) (text : List Char) :
    d.readAll 0 text = scanner.read d text := by
  refine Text.Scanner.read_eq_of_steps (fun _ _ => rfl) (fun pos d c cs => ?_) d text
  rw [readAll, feed_scanner]
  cases d.feed pos c <;> rfl

/-- Positions count bytes. -/
theorem behind_scanner (pos : Nat) (text : List Char) :
    scanner.behind pos text = pos + (String.ofList text).utf8ByteSize := by
  induction text generalizing pos with
  | nil => simp [Text.Scanner.behind]
  | cons c cs ih =>
      have hsplit : String.ofList (c :: cs) = String.ofList [c] ++ String.ofList cs := by
        rw [← String.ofList_append, List.singleton_append]
      rw [hsplit, String.utf8ByteSize_append, ← Nat.add_assoc]
      simpa [Text.Scanner.behind, scanner] using ih (pos + c.utf8Size)

theorem exists_finish (t : Step) (done : List Step) : ∃ s, (steps (t :: done)).finish = .ok s := by
  obtain ⟨s, ss, h⟩ := List.exists_cons_of_ne_nil (show (t :: done).reverse ≠ [] by simp)
  exact ⟨⟨s, ss⟩, by simp only [finish, h]⟩

theorem live_scanner : scanner.Live := by
  intro pos d
  cases d with
  | steps done =>
      obtain ⟨s, hs⟩ := exists_finish ⟨.key 'A', false⟩ done
      exact ⟨['A'], _, s, rfl, hs⟩
  | set done start keys =>
      obtain ⟨k, ks, hkeys⟩ :=
        List.exists_cons_of_ne_nil (show ('A' :: keys).reverse ≠ [] by simp)
      obtain ⟨s, hs⟩ := exists_finish ⟨.choice k ks, false⟩ done
      have hkey : (set done start keys).feed pos 'A' = .ok (set done start ('A' :: keys)) := rfl
      have hclose : (set done start ('A' :: keys)).feed (pos + 1) ']' =
          .ok (steps (⟨.choice k ks, false⟩ :: done)) := by simp [feed, hkeys]
      refine ⟨['A', ']'], steps (⟨.choice k ks, false⟩ :: done), s,
        Text.Scanner.feedAll_cons_eq_ok_iff.mpr ⟨_, hkey, ?_⟩, hs⟩
      exact (Text.Scanner.feedAll_singleton _ _ _).trans hclose

/-! ### What a character and the end can be refused for -/

theorem feed_eq_error (h : d.feed pos c = .error fault) :
    fault = .unexpected c pos ∨ c = '?' ∧ fault = .danglingOptional pos ∨
      c = ']' ∧ ∃ done start, d = set done start [] ∧ fault = .emptySet start := by
  cases d with
  | steps done =>
      simp only [feed] at h
      split at h
      · cases h
      split at h
      · next hc =>
        split at h <;> cases h
        exact .inr (.inl ⟨hc, rfl⟩)
      split at h <;> cases h
      exact .inl rfl
  | set done start keys =>
      simp only [feed] at h
      split at h
      · next hc =>
        split at h <;> cases h
        next hkeys =>
        obtain rfl : keys = [] := by simpa using hkeys
        exact .inr (.inr ⟨hc, done, start, rfl, rfl⟩)
      split at h <;> cases h
      exact .inl rfl

theorem finish_eq_error (h : d.finish = .error fault) :
    d = steps [] ∧ fault = .empty ∨
      ∃ done start keys, d = set done start keys ∧ fault = .unterminatedSet start := by
  cases d with
  | steps done =>
      simp only [finish] at h
      split at h <;> cases h
      next hdone =>
      exact .inl ⟨by simpa using hdone, rfl⟩
  | set done start keys =>
      cases h
      exact .inr ⟨done, start, keys, rfl, rfl⟩

/-! ### What a draft has read -/

/-- The draft has read `text`, with key characters in its steps, and a bracket that stands open
stands behind the text of the steps before it. -/
structure Traces (text : List Char) (d : Draft) : Prop where
  written : d.written = text
  keyed : d.Keyed
  placed : ∀ done start keys, d = set done start keys →
    start = (String.ofList (done.reverse.flatMap Step.write)).utf8ByteSize

theorem traces_nil : Traces [] (steps []) :=
  ⟨rfl, by simp [Keyed], nofun⟩

theorem Traces.feed (h : Traces text d) (hc : d.feed (scanner.behind 0 text) c = .ok d') :
    Traces (text ++ [c]) d' := by
  refine ⟨by rw [written_feed hc, h.written], h.keyed.feed hc, ?_⟩
  rintro done start keys rfl
  cases d with
  | steps before =>
      simp only [Draft.feed] at hc
      split at hc
      · cases hc
        rw [behind_scanner, Nat.zero_add, ← h.written]
        rfl
      split at hc
      · split at hc <;> cases hc
      split at hc <;> cases hc
  | set before start' keys' =>
      simp only [Draft.feed] at hc
      split at hc
      · split at hc <;> cases hc
      split at hc <;> cases hc
      exact h.placed _ _ _ rfl

theorem traces_of_feedAll (h : scanner.feedAll 0 (steps []) text = .ok d) : Traces text d :=
  Text.Scanner.feedAll_invariant traces_nil (fun _ _ _ _ ht hc => ht.feed hc) h

/-- A draft with a bracket open has read a text that ends inside that set. -/
theorem Traces.endsInSet {start : Nat} (h : Traces text (set done start keys)) :
    EndsInSet text start := by
  refine ⟨done.reverse.flatMap Step.write, keys.reverse, h.written.symm, ?_, h.placed _ _ _ rfl⟩
  rw [List.mem_reverse]
  exact fun hclose => (ne_mark_of_isKeyChar (h.keyed.2 _ hclose)).2.1 rfl

/-- A character that is refused is named, or with it the `[` before it, by the text up to there. -/
theorem Traces.namesEnd (h : Traces text d)
    (hc : d.feed (scanner.behind 0 text) c = .error fault) : fault.NamesEnd (text ++ [c]) := by
  rw [behind_scanner, Nat.zero_add] at hc
  obtain rfl | ⟨rfl, rfl⟩ | ⟨rfl, done, start, rfl, rfl⟩ := feed_eq_error hc
  · exact .unexpected text c
  · exact .danglingOptional text
  · obtain rfl := h.placed _ _ _ rfl
    obtain rfl := h.written
    simpa [Draft.written] using Fault.NamesEnd.emptySet (done.reverse.flatMap Step.write)

/-- A bracket stays open as long as no `]` comes. -/
theorem feedAll_keys {start : Nat} {ks : List Char} (hks : ']' ∉ ks)
    (h : scanner.feedAll pos (set done start keys) ks = .ok d) :
    ∃ keys', d = set done start keys' := by
  induction ks generalizing keys pos with
  | nil => cases h; exact ⟨keys, rfl⟩
  | cons k ks ih =>
      obtain ⟨d₁, hk, hrest⟩ := Text.Scanner.feedAll_cons_eq_ok_iff.mp h
      have hkey : k ≠ ']' := fun e => hks (e ▸ List.mem_cons_self)
      rw [feed_scanner, feed, if_neg hkey] at hk
      split at hk <;> cases hk
      exact ih (fun hclose => hks (List.mem_cons_of_mem k hclose)) hrest

/-- A text that has been read and ends inside a set has left its bracket open. -/
theorem finish_of_endsInSet (h : scanner.feedAll 0 (steps []) text = .ok d)
    (hend : EndsInSet text pos) : d.finish = .error (.unterminatedSet pos) := by
  obtain ⟨before, ks, rfl, hks, rfl⟩ := hend
  obtain ⟨d₁, -, hrest⟩ := Text.Scanner.feedAll_of_append h
  obtain ⟨d₂, hopen, hks'⟩ := Text.Scanner.feedAll_cons_eq_ok_iff.mp hrest
  rw [behind_scanner, Nat.zero_add] at hopen
  cases d₁ with
  | steps done =>
      cases hopen
      obtain ⟨keys, rfl⟩ := feedAll_keys hks hks'
      rfl
  | set done start keys => cases hopen

end Draft

variable {text : List Char} {fault : Fault}

theorem parse_eq_read : parse = Draft.scanner.read (.steps []) :=
  funext (Draft.readAll_eq_read (.steps []))

/-- A text that is not read is empty, or ends inside a set, or has no completion from some place
on. -/
theorem parse_error_cases (h : parse text = .error fault) :
    (text = [] ∧ fault = .empty) ∨
      (∃ pos, Text.Completable parse text ∧ EndsInSet text pos ∧ fault = .unterminatedSet pos) ∨
      ∃ q, Text.FirstDead parse q text ∧ (∀ more, parse (q ++ more) = .error fault) ∧
        fault.NamesEnd q := by
  rw [parse_eq_read] at h ⊢
  obtain ⟨d, hd, hfinish⟩ | hrefused := Text.Scanner.read_eq_error_iff.mp h
  · have ht := Draft.traces_of_feedAll hd
    obtain ⟨rfl, rfl⟩ | ⟨done, start, keys, rfl, rfl⟩ := Draft.finish_eq_error hfinish
    · exact .inl ⟨ht.written.symm, rfl⟩
    · refine .inr (.inl ⟨start, ?_, ht.endsInSet, rfl⟩)
      exact (Text.Scanner.completable_iff Draft.live_scanner).mpr ⟨_, hd⟩
  · obtain ⟨before, c, more, d, rfl, hbefore, hc⟩ := Text.Scanner.exists_refused hrefused
    exact .inr (.inr ⟨before ++ [c],
      Text.Scanner.firstDead_of_refused Draft.live_scanner hbefore hc more,
      Text.Scanner.read_of_refused hbefore hc, (Draft.traces_of_feedAll hbefore).namesEnd hc⟩)

/-- **Faults are found at the earliest place.**  A text that is not read is empty, and then that is
its fault; or it can still be completed but ends inside a set, and the fault is the bracket that
opens the set; or a prefix of it is the first behind which nothing can be completed, and the fault
names the end of that prefix and is the fault of every text that starts with it. -/
theorem grammar_fault_earliest (h : parse text = .error fault) :
    (fault = .empty ↔ text = []) ∧
      (∀ pos, fault = .unterminatedSet pos ↔
        Text.Completable parse text ∧ EndsInSet text pos) ∧
      (fault ≠ .empty → (∀ pos, fault ≠ .unterminatedSet pos) →
        ∃ q, Text.FirstDead parse q text ∧ (∀ more, parse (q ++ more) = .error fault) ∧
          fault.NamesEnd q) := by
  refine ⟨⟨fun hempty => ?_, ?_⟩, fun pos => ⟨fun hset => ?_, ?_⟩, fun hempty hset => ?_⟩
  · obtain ⟨htext, -⟩ | ⟨pos, -, -, hfault⟩ | ⟨q, -, -, hnames⟩ := parse_error_cases h
    · exact htext
    · cases hempty.symm.trans hfault
    · cases hempty ▸ hnames
  · rintro rfl
    cases h
    rfl
  · obtain ⟨-, hfault⟩ | ⟨pos', hcompletable, hend, hfault⟩ | ⟨q, -, -, hnames⟩ :=
      parse_error_cases h
    · cases hset.symm.trans hfault
    · cases hset.symm.trans hfault
      exact ⟨hcompletable, hend⟩
    · cases hset ▸ hnames
  · rintro ⟨hcompletable, hend⟩
    rw [parse_eq_read] at h hcompletable
    obtain ⟨d, hd⟩ := (Text.Scanner.completable_iff Draft.live_scanner).mp hcompletable
    rw [Text.Scanner.read_of_feedAll hd] at h
    exact Except.error.inj (h.symm.trans (Draft.finish_of_endsInSet hd hend))
  · obtain ⟨-, hfault⟩ | ⟨pos, -, -, hfault⟩ | hprefix := parse_error_cases h
    · exact absurd hfault hempty
    · exact absurd hfault (hset pos)
    · exact hprefix

/-- A set without keys, behind an optional step and before what is not looked at. -/
theorem grammar_fault_earliest_sample :
    let text := "S[YH]?[]a".toList
    parse text = .error (.emptySet 6) ∧
      ∃ q, Text.FirstDead parse q text ∧ (∀ more, parse (q ++ more) = .error (.emptySet 6)) ∧
        (Fault.emptySet 6).NamesEnd q := by
  intro text
  have h : parse text = .error (.emptySet 6) := by decide
  exact ⟨h, (grammar_fault_earliest h).2.2 nofun nofun⟩

end KanaTyping.Spelling
