import KanaTyping.Proofs.Play.Due
import KanaTyping.Proofs.Play.Standing

/-!
# Play — what a hint shows

A hint is drawn key by key, through optional steps, units of optional steps alone and kana that
are skipped.  `Hint.Shows x h ks` says that the keys drawn from it are `ks`, in this order, and
that no key comes after them, however often it is asked for.

* `Hint.shows_of_keys`: the keys are all that a hint shows.
* `Hint.keys_ofLyric`: for a whole line they are the keys due in its units.
* `hint_follows_segments` has it for a line and for every state on it, against the greedy
  segmentation.
-/

namespace KanaTyping

namespace Hint

variable {x : Lexicon} {h : Hint} {ks : List Char}

/-- The hint shows the keys `ks`, one after the other, and none after them. -/
structure Shows (x : Lexicon) (h : Hint) (ks : List Char) : Prop where
  keys : h.keys x = ks
  drawn : ∀ i, (h.advanceBy x i).current = ks[i]?

theorem current_eq_head? (x : Lexicon) (h : Hint) : h.current = (h.keys x).head? := by
  obtain ⟨node | n, u⟩ := h <;> rw [keys] <;> rfl

theorem keys_advance (x : Lexicon) (h : Hint) : (h.advance x).keys x = (h.keys x).tail := by
  obtain ⟨node | n, u⟩ := h
  · rw [advance, keys]
    rfl
  · rw [keys, List.tail_cons]

theorem keys_advanceBy (x : Lexicon) (h : Hint) (i : Nat) :
    (h.advanceBy x i).keys x = (h.keys x).drop i := by
  induction i generalizing h with
  | zero => rfl
  | succ i ih => rw [advanceBy, ih, keys_advance, List.drop_tail]

theorem shows_of_keys (hk : h.keys x = ks) : h.Shows x ks where
  keys := hk
  drawn i := by rw [current_eq_head? x, keys_advanceBy, hk, List.head?_drop]

theorem keys_ofLyric (x : Lexicon) (l : Lyric) : (ofLyric x l).keys x = x.due l.kana := by
  rw [ofLyric, keys_ofNode_none x l.settled_cursor, l.unread_cursor]

end Hint

namespace Progress

/-- **What a hint shows.**  For a whole line: the keys shown for the steps that are not optional,
of all its units in order.  After any keys on a line, whatever was typed before it: those for the
steps from the current one on in the spelling of the unit being typed, and then those of the units
after it; and none when the line is finished. -/
theorem hint_follows_segments (x : Lexicon) (before : Progress) (l : Lyric)
    (keys : List Char) :
    let p := ((before.restart x l).pressAll x keys).2
    (Hint.ofLyric x l).Shows x ((Segment.spellings (x.segments l.kana)).flatMap Spelling.due) ∧
      (∀ n, p.node = some n → ∃ done s w todo,
        x.segments l.kana = done ++ .unit s w :: todo ∧
        n ∈ s.head.toLast ∧ p.resolved = (Segment.spellings done).length ∧
        (p.hint x).Shows x
          (Step.due n.remaining ++ (Segment.spellings todo).flatMap Spelling.due)) ∧
      (p.node = none → (p.hint x).Shows x []) := by
  intro p
  have hp : Coherent x p := (coherent_restart x before l).pressAll keys
  have hstands : Stands x l p := (stands_restart x before l).pressAll keys
  refine ⟨Hint.shows_of_keys (Hint.keys_ofLyric x l), fun n hn => ?_, fun hn => ?_⟩
  · cases hstands with
    | behindAll node => rw [hn] at node; cases node
    | onUnit done s w node place _ line _ resolved =>
        rw [hn] at node
        cases node
        -- the units after the one being typed are those of the kana unread
        refine ⟨done, s, w, _, line, place, resolved, Hint.shows_of_keys ?_⟩
        rw [hp.keys_hint, due, hn]
        rfl
  · exact Hint.shows_of_keys (hp.keys_hint.trans (hp.due_eq_nil_iff.mpr hn))

end Progress

end KanaTyping
