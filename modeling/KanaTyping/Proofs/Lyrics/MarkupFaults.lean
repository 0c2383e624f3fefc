import KanaTyping.Proofs.Lyrics.Markup
import KanaTyping.Proofs.Text.Scanners

/-!
# Lyrics — faults of a markup are found at the earliest place

The reader of markup is a live scanner (`live_scanner`): what stands open is closed by `|)`, by `)`
or by nothing.  So a text that is not read can still be completed exactly when a group stands open
at its end, and else a mark in it is the first character behind which nothing can be completed.

* `Fault.place`: the mark that a fault is about, and its number.
* `feed_eq_error`: only marks are refused, each for the fault that is about it.

`markup_fault_earliest` puts them together.
-/

namespace KanaTyping.Lyric

/-- The mark that the fault is about and the number of characters before it; none for a group that
is not closed. -/
def Fault.place : Fault → Option (Char × Nat)
  | nestedRuby pos => some ('(', pos)
  | strayBar pos => some ('|', pos)
  | strayClose pos => some (')', pos)
  | unclosedRuby => none

namespace Draft

variable {d : Draft} {pos : Nat} {c : Char} {text : List Char} {fault : Fault}

/-! ### The reader as a scanner -/

/-- The reader of markup. -/
def scanner : Text.Scanner Draft Fault Lyric where
  size := fun _ => 1
  feed := feed
  finish := finish

theorem readAll_eq_read (d : Draft) (text : List Char) :
    d.readAll 0 text = scanner.read d text := by
  refine Text.Scanner.read_eq_of_steps (fun _ _ => rfl) (fun pos d c cs => ?_) d text
  rw [readAll, show scanner.feed pos c d = d.feed pos c from rfl]
  cases d.feed pos c <;> rfl

/-- Positions count characters. -/
theorem behind_scanner (pos : Nat) (text : List Char) :
    scanner.behind pos text = pos + text.length := by
  induction text generalizing pos with
  | nil => rfl
  | cons c cs ih =>
      rw [List.length_cons, Nat.add_comm cs.length, ← Nat.add_assoc]
      exact ih (pos + 1)

/-- What stands open can be closed. -/
theorem live_scanner : scanner.Live := by
  rintro pos ⟨parts, pending⟩
  cases pending with
  | nothing => exact ⟨[], _, _, rfl, rfl⟩
  | plain text => exact ⟨[], _, _, rfl, rfl⟩
  | base base => exact ⟨['|', ')'], ⟨_, .nothing⟩, _, rfl, rfl⟩
  | reading base reading => exact ⟨[')'], ⟨_, .nothing⟩, _, rfl, rfl⟩

/-! ### What is refused -/

/-- Only marks are refused. -/
theorem feed_eq_error (h : d.feed pos c = .error fault) : fault.place = some (c, pos) := by
  by_cases hopen : c = '('
  · rw [feed, if_pos hopen] at h
    split at h <;> cases h
    all_goals rw [hopen]; rfl
  by_cases hbar : c = '|'
  · rw [feed, if_neg hopen, if_pos hbar] at h
    split at h <;> cases h
    rw [hbar]; rfl
  by_cases hclose : c = ')'
  · rw [feed, if_neg hopen, if_neg hbar, if_pos hclose] at h
    split at h <;> cases h
    rw [hclose]; rfl
  · rw [feed_of_unmarked ⟨hopen, hbar, hclose⟩] at h
    cases h

/-- At the end only a group that stands open is refused. -/
theorem finish_eq_error (h : d.finish = .error fault) : fault = .unclosedRuby := by
  obtain ⟨parts, pending⟩ := d
  cases pending <;> cases h <;> rfl

end Draft

variable {markup : List Char} {fault : Fault}

theorem parse_eq_read : parse = Draft.scanner.read ⟨[], .nothing⟩ :=
  funext (Draft.readAll_eq_read ⟨[], .nothing⟩)

/-- A text that is not read has a group open at its end, or has a mark in it that nothing mends. -/
theorem parse_error_cases (h : parse markup = .error fault) :
    (fault = .unclosedRuby ∧ Text.Completable parse markup) ∨
      ∃ mark pos, fault.place = some (mark, pos) ∧ markup[pos]? = some mark ∧
        Text.Completable parse (markup.take pos) ∧
        ¬ Text.Completable parse (markup.take (pos + 1)) ∧
        ∀ text, markup.take (pos + 1) <+: text → parse text = .error fault := by
  rw [parse_eq_read] at h ⊢
  obtain ⟨d, hd, hfinish⟩ | hrefused := Text.Scanner.read_eq_error_iff.mp h
  · obtain rfl := Draft.finish_eq_error hfinish
    exact .inl ⟨rfl, (Text.Scanner.completable_iff Draft.live_scanner).mpr ⟨d, hd⟩⟩
  · obtain ⟨before, mark, more, d, rfl, hbefore, hmark⟩ := Text.Scanner.exists_refused hrefused
    have hdead := Text.Scanner.firstDead_of_refused Draft.live_scanner hbefore hmark more
    have hsame := Text.Scanner.read_of_refused hbefore hmark
    rw [Draft.behind_scanner, Nat.zero_add] at hmark
    have htake : (before ++ mark :: more).take (before.length + 1) = before ++ [mark] := by
      rw [List.append_cons, List.take_left' (by simp)]
    refine .inr ⟨mark, before.length, Draft.feed_eq_error hmark, by simp, ?_, ?_, ?_⟩
    · rw [List.take_left]
      exact hdead.shorter before (List.prefix_append before [mark]) (by simp)
    · rw [htake]
      exact hdead.dead
    · rw [htake]
      rintro text ⟨rest, rfl⟩
      exact hsame rest

/-- **A markup is refused at the earliest place.**  A text that is not read has the fault of a group
that is not closed exactly when it can still be completed.  With any other fault, the mark that the
fault is about stands at the position it gives; the characters before it can be completed; with the
mark they cannot be, and every text that starts with them has the same fault. -/
theorem markup_fault_earliest (h : parse markup = .error fault) :
    (fault = .unclosedRuby ↔ Text.Completable parse markup) ∧
      (fault ≠ .unclosedRuby → ∃ mark pos, fault.place = some (mark, pos) ∧
        markup[pos]? = some mark ∧ Text.Completable parse (markup.take pos) ∧
        ¬ Text.Completable parse (markup.take (pos + 1)) ∧
        ∀ text, markup.take (pos + 1) <+: text → parse text = .error fault) := by
  obtain ⟨rfl, hcompletable⟩ | ⟨mark, pos, hplace, hmark, hbefore, hdead, hsame⟩ :=
    parse_error_cases h
  · exact ⟨iff_of_true rfl hcompletable, fun hne => absurd rfl hne⟩
  · refine ⟨iff_of_false ?_ ?_, fun _ => ⟨mark, pos, hplace, hmark, hbefore, hdead, hsame⟩⟩
    · rintro rfl
      cases hplace
    · -- whatever completes the text would complete its first characters
      rintro ⟨more, l, hl⟩
      refine hdead ⟨markup.drop (pos + 1) ++ more, l, ?_⟩
      rwa [← List.append_assoc, List.take_append_drop]

/-- A bar in the reading of a second group. -/
theorem markup_fault_earliest_sample :
    let markup := "(空|そら)(雨|あ|め".toList
    parse markup = .error (.strayBar 10) ∧ markup[10]? = some '|' ∧
      Text.Completable parse "(空|そら)(雨|あ".toList ∧
      ¬ Text.Completable parse "(空|そら)(雨|あ|".toList := by
  intro markup
  have h : parse markup = .error (.strayBar 10) := by decide
  obtain ⟨mark, pos, hplace, hmark, hbefore, hdead, -⟩ := (markup_fault_earliest h).2 nofun
  cases hplace
  exact ⟨h, hmark, hbefore, hdead⟩

end KanaTyping.Lyric
