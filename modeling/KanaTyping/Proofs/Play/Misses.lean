import KanaTyping.Proofs.Kana.Sources
import KanaTyping.Proofs.Play.Due

/-!
# Play — hits and misses

Which keys hit, and what becomes of the keys that miss.

* `press_eq_hit_iff`: a key hits when a step in reach of the current one takes it, upper case for
  lower.  In a state that holds together these are the optional steps up to the first step that is
  not, and that one (`Coherent.hit_iff`).
* `pressAll_hitKeys`: the keys that hit, typed without those that missed, all hit and lead to the
  same state.

`misses_leave_no_trace` has both of every state that a player can bring about.
-/

namespace KanaTyping

/-- With optional steps in front, a step that is not optional is the last one in reach. -/
theorem Step.inReach_of_required {skipped rest : List Step} {r : Step}
    (skip : ∀ s ∈ skipped, s.optional = true) (required : r.optional = false) :
    inReach (skipped ++ r :: rest) = skipped ++ [r] := by
  induction skipped with
  | nil => simp [inReach, required]
  | cons s ss ih =>
      rw [List.forall_mem_cons] at skip
      rw [List.cons_append, inReach, if_pos skip.1, ih skip.2]
      rfl

namespace Progress

variable {x : Lexicon} {p : Progress} {key : Char}

/-- A key hits when a step in reach takes it. -/
theorem press_eq_hit_iff :
    (p.press x key).1 = .hit ↔ ∃ n, p.node = some n ∧
      ∃ s ∈ Step.inReach n.remaining, s.atom.accepts key.toUpper = true := by
  cases hn : p.node with
  | none => simp [press, hn]
  | some n =>
      cases hm : n.reach key.toUpper with
      | none =>
          have hno := Node.reach_eq_none_iff.mp hm
          simpa [press, hn, hm] using hno
      | some m =>
          obtain ⟨gap, hgap, hskip, hkey⟩ := Node.reach_eq_some_iff.mp hm
          have hmem : m.step ∈ Step.inReach n.remaining := by
            rw [hgap.remaining]
            exact Step.mem_inReach fun s hs => (hskip s hs).1
          simp only [press, hn, hm, true_iff]
          exact ⟨n, rfl, m.step, hmem, hkey⟩

/-- A key hits when it is taken by a step from the current one to the first that is not optional. -/
theorem Coherent.hit_iff (h : Coherent x p) :
    (p.press x key).1 = .hit ↔ ∃ n skipped r rest, p.node = some n ∧
      n.remaining = skipped ++ r :: rest ∧ (∀ s ∈ skipped, s.optional = true) ∧
      r.optional = false ∧ ∃ s ∈ skipped ++ [r], s.atom.accepts key.toUpper = true := by
  rw [press_eq_hit_iff]
  constructor
  · rintro ⟨n, hn, hkey⟩
    obtain ⟨skipped, m, hover, hskip, hreq⟩ := Node.exists_over_required (h.asks n hn)
    refine ⟨n, skipped, m.step, m.ahead, hn, hover.remaining, hskip, hreq, ?_⟩
    rwa [hover.remaining, Node.remaining, Step.inReach_of_required hskip hreq] at hkey
  · rintro ⟨n, skipped, r, rest, hn, hremaining, hskip, hreq, hkey⟩
    refine ⟨n, hn, ?_⟩
    rwa [hremaining, Step.inReach_of_required hskip hreq]

/-- Behind the end of the line every key misses. -/
theorem pressAll_of_finished (hp : p.finished = true) (keys : List Char) :
    p.pressAll x keys = (List.replicate keys.length .miss, p) := by
  have hpress : ∀ key, p.press x key = (.miss, p) := fun key => by
    rw [press, Option.isNone_iff_eq_none.mp hp]
  induction keys with
  | nil => rfl
  | cons key keys ih => rw [pressAll_cons, hpress, ih]; rfl

/-- The keys that hit, of those typed from the state `p` on. -/
def hitKeys (x : Lexicon) (p : Progress) (keys : List Char) : List Char :=
  ((keys.zip (p.pressAll x keys).1).filter (·.2 = .hit)).map (·.1)

theorem hitKeys_cons (x : Lexicon) (p : Progress) (key : Char) (keys : List Char) :
    p.hitKeys x (key :: keys) =
      (if (p.press x key).1 = .hit then [key] else []) ++
        (p.press x key).2.hitKeys x keys := by
  rw [hitKeys, pressAll_cons, List.zip_cons_cons, List.filter_cons]
  by_cases h : (p.press x key).1 = .hit <;> simp [h, hitKeys]

/-- The keys that hit do so without those that missed, and lead to the same state. -/
theorem pressAll_hitKeys (x : Lexicon) (p : Progress) (keys : List Char) :
    p.pressAll x (p.hitKeys x keys) =
      (List.replicate (p.hitKeys x keys).length .hit, (p.pressAll x keys).2) := by
  induction keys generalizing p with
  | nil => rfl
  | cons key keys ih =>
      rw [hitKeys_cons, pressAll_cons]
      cases h : (p.press x key).1 with
      | hit => simp [pressAll_cons, h, ih, List.replicate_succ]
      | miss =>
          rw [press_of_miss h]
          simpa using ih p

/-- **Misses leave no trace.**  In every state that a player can bring about: a key hits exactly
when the line is unfinished and a step from the current one to the first one that is not optional
takes it, as an upper-case letter; a key that misses changes nothing of the state, and behind the
end of the line every key misses.  So of any keys, those that hit are hits on their own too, and
lead to the same state. -/
theorem misses_leave_no_trace (h : Reachable x p) :
    (∀ key, (p.press x key).1 = .hit ↔ ∃ n skipped r rest, p.node = some n ∧
        n.remaining = skipped ++ r :: rest ∧ (∀ s ∈ skipped, s.optional = true) ∧
        r.optional = false ∧ ∃ s ∈ skipped ++ [r], s.atom.accepts key.toUpper = true) ∧
      (∀ key, (p.press x key).1 = .miss → (p.press x key).2 = p) ∧
      (p.finished = true → ∀ keys, p.pressAll x keys = (List.replicate keys.length .miss, p)) ∧
      ∀ keys, p.pressAll x (p.hitKeys x keys) =
        (List.replicate (p.hitKeys x keys).length .hit, (p.pressAll x keys).2) :=
  ⟨fun _ => h.coherent.hit_iff, fun _ => press_of_miss, pressAll_of_finished,
    pressAll_hitKeys x p⟩

/-- Inside `SH?I` the key `I` passes over the optional `H`; two keys miss before the line is
finished, and one after. -/
theorem misses_leave_no_trace_sample :
    let p := ((start .sample (.ofPlain ['し', 'ー', 'ん'])).pressAll .sample ['s']).2
    let keys := ['x', 'i', 's', 'N', 'n']
    Reachable .sample p ∧ (p.press .sample 'i').1 = .hit ∧ (p.press .sample 's').2 = p ∧
      p.hitKeys .sample keys = ['i', 'N'] ∧
      p.pressAll .sample ['i', 'N'] = ([.hit, .hit], (p.pressAll .sample keys).2) ∧
      (p.pressAll .sample keys).2.finished = true := by
  intro p keys
  have hp : Reachable .sample p := (Reachable.start _ _).pressAll _
  obtain ⟨hit, miss, -, run⟩ := misses_leave_no_trace hp
  -- the step `H` is optional, and the step `I` after it is not
  have hi : (p.press .sample 'i').1 = .hit :=
    (hit 'i').mpr ⟨⟨[⟨.key 'S', false⟩], ⟨.key 'H', true⟩, [⟨.key 'I', false⟩]⟩,
      [⟨.key 'H', true⟩], ⟨.key 'I', false⟩, [], by decide +kernel, rfl, by simp, rfl,
      ⟨.key 'I', false⟩, by simp, by decide⟩
  have hkeys : p.hitKeys .sample keys = ['i', 'N'] := by decide +kernel
  have hrun := run keys
  rw [hkeys] at hrun
  exact ⟨hp, hi, miss 's' (by decide +kernel), hkeys, hrun, by decide +kernel⟩

end Progress

end KanaTyping
