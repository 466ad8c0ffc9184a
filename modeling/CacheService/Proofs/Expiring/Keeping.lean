import CacheService.Proofs.Expiring.Interleaving
import CacheService.Proofs.Expiring.NeverEvicting

/-!
# Nothing that lives is lost

Every operation reads the clock before it touches the table, so readings can be older than the
entries that they meet. Still an entry leaves the table only if its key is stored again, removed or
reset, or if a read of its key or a sweep meets it with a reading at or past its deadline as it is
then (`live_kept`). So a guarantee holds also against reads and sweeps that had read the clock
before it.
-/

namespace CacheService

/-- An entry that has become another by nothing but moving its deadline on. -/
structure Timed.Outlasts {α : Type} (t t' : Timed α) : Prop where
  item : t'.item = t.item
  deadline : t.deadline ≤ t'.deadline

namespace Timed

variable {α : Type} {t t' t'' : Timed α}

theorem Outlasts.refl (t : Timed α) : t.Outlasts t :=
  ⟨rfl, UInt64.le_refl _⟩

theorem Outlasts.trans (h : t.Outlasts t') (h' : t'.Outlasts t'') : t.Outlasts t'' where
  item := h'.item.trans h.item
  deadline := UInt64.le_trans h.deadline h'.deadline

theorem outlasts_extend (t : Timed α) (time : UInt64) : t.Outlasts (t.extend time) := by
  refine ⟨rfl, UInt64.le_iff_toNat_le.2 ?_⟩
  rw [extend, ObjectStore.Follows.toNat_max]
  exact Nat.le_max_left _ _

theorem le_deadline_extend (t : Timed α) (time : UInt64) : time ≤ (t.extend time).deadline := by
  rw [extend, UInt64.le_iff_toNat_le, ObjectStore.Follows.toNat_max]
  exact Nat.le_max_right _ _

end Timed

namespace ObjectStore

variable {κ α : Type}

/-! ## Steps that touch an entry -/

namespace Progress

/-- The next step stores an item under the key. -/
def Puts (key : κ) (p : Progress κ α) : Prop :=
  ∃ item lifetime now, p = .underway (.acting (.put key item lifetime) now)

/-- The next step takes out whatever the key has. -/
def Drops (key : κ) (p : Progress κ α) : Prop :=
  (∃ now, p = .underway (.acting (.remove key) now)) ∨ p = .called .reset

/-- The next step takes out the entry of the key if it has expired at a reading: it is that of a
read of the key, or that of a sweep. -/
def Evicts (key : κ) (now : UInt64) (p : Progress κ α) : Prop :=
  p = .underway (.acting (.read key) now) ∨ ∃ occasion, p = .underway (.sweepActing occasion now)

end Progress

variable [Ord κ] [Std.TransOrd κ]

/-- All that a step of an operation can do to the entry of a key. -/
inductive Change (s : ObjectStore κ α) (key : κ) (p : Progress κ α) (s' : ObjectStore κ α) : Prop
  | kept (h : s'.entries[key]? = s.entries[key]?)
  | stored (hp : p.Puts key)
  | dropped (hp : p.Drops key) (h : s'.entries[key]? = none)
  | extended (t : Timed α) (time : UInt64) (ht : s.entries[key]? = some t)
    (h : s'.entries[key]? = some (t.extend time))
  | evicted (t : Timed α) (now : UInt64) (hp : p.Evicts key now) (ht : s.entries[key]? = some t)
    (hexpired : t.deadline ≤ now) (h : s'.entries[key]? = none)

theorem isExpired_iff_le (t : Timed α) (now : UInt64) :
    t.isExpired now = true ↔ t.deadline ≤ now := by
  simp [Timed.isExpired]

/-- A guarantee extends the entry of its key, or is not given and changes nothing. -/
theorem guaranteeAt_cases (s : ObjectStore κ α) (now seconds : UInt64) (key : κ) :
    (∃ t, s.entries[key]? = some t ∧ s.guaranteeAt now key seconds =
      (true, { s with entries := s.entries.insert key (t.extend (Time.after now seconds)) })) ∨
      s.guaranteeAt now key seconds = (false, s) := by
  unfold guaranteeAt
  cases s.entries[key]? with
  | none => exact .inr rfl
  | some t =>
    cases hexpired : t.isExpired now with
    | true => exact .inr (by simp [hexpired])
    | false => exact .inl ⟨t, rfl, by simp [hexpired]⟩

/-- A read evicts the entry of its key, if that has expired, or changes nothing. -/
theorem readAt_cases (s : ObjectStore κ α) (now : UInt64) (key : κ) :
    (∃ t, s.entries[key]? = some t ∧ t.deadline ≤ now ∧
      (s.readAt now key).2 = { s with entries := s.entries.erase key }) ∨
      (s.readAt now key).2 = s := by
  unfold readAt
  cases s.entries[key]? with
  | none => exact .inr rfl
  | some t =>
    cases hexpired : t.isExpired now with
    | true => exact .inl ⟨t, rfl, (isExpired_iff_le t now).1 hexpired, by simp [hexpired]⟩
    | false => exact .inr (by simp [hexpired])

/-- A read before the deadline answers the item and changes nothing. -/
theorem readAt_of_lt {s : ObjectStore κ α} {now : UInt64} {key : κ} {t : Timed α}
    (ht : s.entries[key]? = some t) (hlive : now < t.deadline) :
    s.readAt now key = (some t.item, s) := by
  have hexpired : t.isExpired now = false := by
    rw [← Bool.not_eq_true, isExpired_iff_le]
    exact UInt64.not_le.2 hlive
  simp [readAt, ht, hexpired]

variable [Std.LawfulEqOrd κ]

theorem getElem?_insert_of_ne (entries : Std.ExtTreeMap κ (Timed α)) {key other : κ}
    (h : other ≠ key) (t : Timed α) : (entries.insert other t)[key]? = entries[key]? := by
  rw [Std.ExtTreeMap.getElem?_insert, if_neg]
  simpa only [Std.LawfulEqOrd.compare_eq_iff_eq] using h

theorem getElem?_erase_of_ne (entries : Std.ExtTreeMap κ (Timed α)) {key other : κ}
    (h : other ≠ key) : (entries.erase other)[key]? = entries[key]? := by
  rw [Std.ExtTreeMap.getElem?_erase, if_neg]
  simpa only [Std.LawfulEqOrd.compare_eq_iff_eq] using h

/-- To touch the table changes the entry of a key in one of these ways. -/
theorem change_act (s : ObjectStore κ α) (now : UInt64) (access : Access κ α) (key : κ) :
    Change s key (.underway (.acting access now)) (s.act now access).2 := by
  cases access with
  | put other item lifetime =>
    by_cases hkey : other = key
    · subst hkey
      exact .stored ⟨item, lifetime, now, rfl⟩
    · exact .kept (getElem?_insert_of_ne _ hkey _)
  | guarantee other seconds =>
    rcases guaranteeAt_cases s now seconds other with ⟨t, ht, hgiven⟩ | hnot
    · simp only [act, hgiven]
      by_cases hkey : other = key
      · subst hkey
        exact .extended t _ ht Std.ExtTreeMap.getElem?_insert_self
      · exact .kept (getElem?_insert_of_ne _ hkey _)
    · simp only [act, hnot]
      exact .kept rfl
  | read other =>
    rcases readAt_cases s now other with ⟨t, ht, hexpired, hread⟩ | hread
    · simp only [act, hread]
      by_cases hkey : other = key
      · subst hkey
        exact .evicted t now (.inl rfl) ht hexpired Std.ExtTreeMap.getElem?_erase_self
      · exact .kept (getElem?_erase_of_ne _ hkey)
    · simp only [act, hread]
      exact .kept rfl
  | remove other =>
    by_cases hkey : other = key
    · subst hkey
      exact .dropped (.inl ⟨now, rfl⟩) Std.ExtTreeMap.getElem?_erase_self
    · exact .kept (getElem?_erase_of_ne _ hkey)
  | remaining other => exact .kept rfl

/-- A sweep evicts the entry of a key if it has expired. -/
theorem change_sweepAt (s : ObjectStore κ α) (now : UInt64) (occasion : Occasion κ) (key : κ) :
    Change s key (.underway (.sweepActing occasion now)) (s.sweepAt now).2 := by
  have hfiltered : (s.sweepAt now).2.entries[key]? =
      s.entries[key]?.filter fun t => !t.isExpired now := by
    simp only [sweepAt, Std.ExtTreeMap.getElem?_filter']
  cases ht : s.entries[key]? with
  | none => exact .kept (by rw [hfiltered, ht]; rfl)
  | some t =>
    cases hexpired : t.isExpired now with
    | true =>
      have hdue := (isExpired_iff_le t now).1 hexpired
      exact .evicted t now (.inr ⟨occasion, rfl⟩) ht hdue (by simp [hfiltered, ht, hexpired])
    | false => exact .kept (by simp [hfiltered, ht, hexpired])

/-- Whatever an operation does in a step, it does one of these things to the entry of a key. -/
theorem change_advance (s : ObjectStore κ α) (clock : UInt64) (p : Progress κ α) (key : κ) :
    Change s key p (s.advance clock p).2 := by
  cases p with
  | called operation =>
    cases operation with
    | reset => exact .dropped (.inr rfl) (by simp [advance, start, reset])
    | clean => cases hs : s.sweeping <;> exact .kept (by simp [advance, start, beginSweep?, hs])
    | _ => exact .kept rfl
  | due other => cases hs : s.sweeping <;> exact .kept (by simp [advance, beginSweep?, hs])
  | underway stage =>
    cases stage with
    | acting access now => exact change_act s now access key
    | sweepActing occasion now => exact change_sweepAt s now occasion key
    | sweepEnding occasion removed => cases occasion <;> exact .kept rfl
    | _ => exact .kept rfl

/-! ## Entries from one step to the next -/

namespace Change

omit [Std.LawfulEqOrd κ]

variable {s s' : ObjectStore κ α} {key : κ} {p : Progress κ α}

/-- An entry outlasts a step that does not put it away. -/
theorem outlasts (h : Change s key p s') {t : Timed α} (ht : s.entries[key]? = some t) :
    (p.Puts key ∨ p.Drops key ∨ ∃ now, p.Evicts key now ∧ t.deadline ≤ now) ∨
      ∃ t', s'.entries[key]? = some t' ∧ t.Outlasts t' := by
  cases h with
  | kept hsame => exact .inr ⟨t, hsame.trans ht, .refl t⟩
  | stored hp => exact .inl (.inl hp)
  | dropped hp hnone => exact .inl (.inr (.inl hp))
  | extended t' time ht' hafter =>
    obtain rfl : t = t' := Option.some.inj (ht.symm.trans ht')
    exact .inr ⟨t.extend time, hafter, t.outlasts_extend time⟩
  | evicted t' now hp ht' hexpired hnone =>
    obtain rfl : t = t' := Option.some.inj (ht.symm.trans ht')
    exact .inl (.inr (.inr ⟨now, hp, hexpired⟩))

/-- What a key has after a step that does not store it, it had before. -/
theorem outlasted (h : Change s key p s') (hp : ¬ p.Puts key) {t' : Timed α}
    (ht' : s'.entries[key]? = some t') : ∃ t, s.entries[key]? = some t ∧ t.Outlasts t' := by
  cases h with
  | kept hsame => exact ⟨t', hsame.symm.trans ht', .refl t'⟩
  | stored hputs => exact absurd hputs hp
  | dropped hdrops hnone =>
    rw [hnone] at ht'
    cases ht'
  | extended t time ht hafter =>
    obtain rfl : t.extend time = t' := Option.some.inj (hafter.symm.trans ht')
    exact ⟨t, ht, t.outlasts_extend time⟩
  | evicted t now hevicts ht hexpired hnone =>
    rw [hnone] at ht'
    cases ht'

end Change

/-! ## Runs -/

namespace Crowd

/-- An entry stays, with a deadline no earlier, if the operation that takes a step does not put it
away. -/
theorem outlasts_move (c : Crowd κ α) (m : Move κ α) {key : κ} {t : Timed α}
    (ht : c.store.entries[key]? = some t) :
    (∃ p, c.mover? m = some p ∧
      (p.Puts key ∨ p.Drops key ∨ ∃ now, p.Evicts key now ∧ t.deadline ≤ now)) ∨
      ∃ t', (c.move m).store.entries[key]? = some t' ∧ t.Outlasts t' := by
  rcases c.store_move m with hsame | ⟨p, clock, hp, hstep⟩
  · exact .inr ⟨t, by rw [hsame, ht], .refl t⟩
  · rw [hstep]
    exact (change_advance c.store clock p key).outlasts ht |>.imp_left fun hleaves =>
      ⟨p, hp, hleaves⟩

/-- What a key has after a run in which it was not stored, it had before. -/
theorem outlasted_run {c : Crowd κ α} {moves : List (Move κ α)} {key : κ}
    (hmovers : ∀ p ∈ c.movers moves, ¬ p.Puts key) {t' : Timed α}
    (ht' : (c.run moves).store.entries[key]? = some t') :
    ∃ t, c.store.entries[key]? = some t ∧ t.Outlasts t' := by
  induction moves generalizing c with
  | nil => exact ⟨t', ht', .refl t'⟩
  | cons m rest ih =>
    have hrest : ∀ p ∈ (c.move m).movers rest, ¬ p.Puts key := fun p hp =>
      hmovers p (List.mem_append_right _ hp)
    -- back through the rest of the run, and then through its first move
    obtain ⟨t, ht, hlasts⟩ := ih hrest ht'
    rcases c.store_move m with hsame | ⟨p, clock, hp, hstep⟩
    · exact ⟨t, by rw [← hsame, ht], hlasts⟩
    · have hputs : ¬ p.Puts key := hmovers p (List.mem_append_left _ (by rw [hp]; simp))
      rw [hstep] at ht
      obtain ⟨t₀, ht₀, hbefore⟩ := (change_advance c.store clock p key).outlasted hputs ht
      exact ⟨t₀, ht₀, hbefore.trans hlasts⟩

/-- An entry stays through a run in which its key is neither stored nor dropped, and in which every
reading that could evict it is before its deadline. -/
theorem outlasts_run {c : Crowd κ α} {moves : List (Move κ α)} {key : κ} {t : Timed α}
    (ht : c.store.entries[key]? = some t)
    (hmovers : ∀ p ∈ c.movers moves, ¬ p.Puts key ∧ ¬ p.Drops key ∧
      ∀ now, p.Evicts key now → now < t.deadline) :
    ∃ t', (c.run moves).store.entries[key]? = some t' ∧ t.Outlasts t' := by
  induction moves generalizing c t with
  | nil => exact ⟨t, ht, .refl t⟩
  | cons m rest ih =>
    rcases c.outlasts_move m ht with ⟨p, hp, hleaves⟩ | ⟨t', ht', hlasts⟩
    · -- none of the ways in which the entry could leave is open
      obtain ⟨hputs, hdrops, hreadings⟩ := hmovers p (List.mem_append_left _ (by rw [hp]; simp))
      rcases hleaves with hleaves | hleaves | ⟨now, hevicts, hexpired⟩
      · exact absurd hleaves hputs
      · exact absurd hleaves hdrops
      · exact absurd (hreadings now hevicts) (UInt64.not_lt.2 hexpired)
    · -- its deadline is no earlier than before, so the readings are before that one as well
      have hrest : ∀ p ∈ (c.move m).movers rest, ¬ p.Puts key ∧ ¬ p.Drops key ∧
          ∀ now, p.Evicts key now → now < t'.deadline := by
        intro p hp
        obtain ⟨hputs, hdrops, hreadings⟩ := hmovers p (List.mem_append_right _ hp)
        exact ⟨hputs, hdrops, fun now hevicts =>
          UInt64.lt_of_lt_of_le (hreadings now hevicts) hlasts.deadline⟩
      obtain ⟨t'', ht'', hlater⟩ := ih ht' hrest
      exact ⟨t'', ht'', hlasts.trans hlater⟩

omit [Std.LawfulEqOrd κ] in
/-- A guarantee that answers true has extended the entry of its key. -/
theorem extended_of_flag {c : Crowd κ α} {number : Nat} {clock reading seconds : UInt64} {key : κ}
    (hcaller : c.callers[number]? = some (.underway (.acting (.guarantee key seconds) reading)))
    (hgiven : (c.move (.advance number clock)).callers[number]? =
      some (.underway (.returned (.flag true)))) :
    ∃ t, c.store.entries[key]? = some t ∧
      (c.move (.advance number clock)).store.entries[key]? =
        some (t.extend (Time.after reading seconds)) := by
  have hlt : number < c.callers.length := (List.getElem?_eq_some_iff.1 hcaller).1
  rw [move_advance clock hcaller] at hgiven ⊢
  dsimp only [advance, step, act] at hgiven ⊢
  rcases guaranteeAt_cases c.store reading seconds key with ⟨t, ht, hextends⟩ | hnot
  · rw [hextends]
    exact ⟨t, ht, Std.ExtTreeMap.getElem?_insert_self⟩
  · rw [hnot, List.getElem?_set_self hlt] at hgiven
    cases hgiven

/-- A guarantee that answers true holds as long as every reading that could evict the entry is
before the time that was guaranteed, and so long a read before that time answers the item. -/
theorem guarantee_kept {c : Crowd κ α} {number : Nat} {clock reading seconds : UInt64} {key : κ}
    (hcaller : c.callers[number]? = some (.underway (.acting (.guarantee key seconds) reading)))
    (hgiven : (c.move (.advance number clock)).callers[number]? =
      some (.underway (.returned (.flag true))))
    {moves : List (Move κ α)}
    (hmovers : ∀ p ∈ (c.move (.advance number clock)).movers moves, ¬ p.Puts key ∧ ¬ p.Drops key ∧
      ∀ now, p.Evicts key now →
        now.toNat < min (reading.toNat + 1000 * seconds.toNat) Time.last) :
    ∃ t t', c.store.entries[key]? = some t ∧
      ((c.move (.advance number clock)).run moves).store.entries[key]? = some t' ∧
      t'.item = t.item ∧
      min (reading.toNat + 1000 * seconds.toNat) Time.last ≤ t'.deadline.toNat ∧
      ∀ now : UInt64, now.toNat < min (reading.toNat + 1000 * seconds.toNat) Time.last →
        (((c.move (.advance number clock)).run moves).store.readAt now key).1 = some t.item := by
  rw [← Time.toNat_after] at hmovers ⊢
  -- the guarantee has moved the deadline to the guaranteed time at least
  obtain ⟨t, ht, hextended⟩ := extended_of_flag hcaller hgiven
  have hbound := t.le_deadline_extend (Time.after reading seconds)
  have hbefore : ∀ p ∈ (c.move (.advance number clock)).movers moves, ¬ p.Puts key ∧
      ¬ p.Drops key ∧ ∀ now, p.Evicts key now →
        now < (t.extend (Time.after reading seconds)).deadline := by
    intro p hp
    obtain ⟨hputs, hdrops, hreadings⟩ := hmovers p hp
    refine ⟨hputs, hdrops, fun now hevicts => ?_⟩
    exact UInt64.lt_of_lt_of_le (UInt64.lt_iff_toNat_lt.2 (hreadings now hevicts)) hbound
  obtain ⟨t', ht', hlasts⟩ := outlasts_run hextended hbefore
  have hlater : Time.after reading seconds ≤ t'.deadline :=
    UInt64.le_trans hbound hlasts.deadline
  refine ⟨t, t', ht, ht', hlasts.item, UInt64.le_iff_toNat_le.1 hlater, fun now hnow => ?_⟩
  have hlive : now < t'.deadline :=
    UInt64.lt_of_lt_of_le (UInt64.lt_iff_toNat_lt.2 hnow) hlater
  rw [readAt_of_lt ht' hlive, hlasts.item]
  rfl

/-- Whatever times the clock shows and however operations come between each other: an entry is
there after a move, with the same item and a deadline no earlier, unless its key is stored, removed
or reset in this move, or read or swept with a reading at or past its deadline. What a key has after
moves in which it was not stored it had before, with a deadline no later. A guarantee that answers
true on a reading keeps the item for as long as the key is not stored, removed or reset and every
read of the key and every sweep that touches the table has a reading before the guaranteed time, and
a read with such a reading answers it. At most one sweep is active, and a sweep that someone asks
for meanwhile answers none and changes nothing. -/
theorem live_kept {s : ObjectStore κ α} (hs : s.sweeping = false) (front : List (Move κ α)) :
    (∀ (m : Move κ α) (key : κ) (t : Timed α), (after s front).store.entries[key]? = some t →
      (∃ p, (after s front).mover? m = some p ∧
        (p.Puts key ∨ p.Drops key ∨ ∃ now, p.Evicts key now ∧ t.deadline ≤ now)) ∨
        ∃ t', ((after s front).move m).store.entries[key]? = some t' ∧ t.Outlasts t') ∧
    (∀ (moves : List (Move κ α)) (key : κ) (t' : Timed α),
      (∀ p ∈ (after s front).movers moves, ¬ p.Puts key) →
      ((after s front).run moves).store.entries[key]? = some t' →
        ∃ t, (after s front).store.entries[key]? = some t ∧ t.Outlasts t') ∧
    (∀ (number : Nat) (clock reading seconds : UInt64) (key : κ) (moves : List (Move κ α)),
      (after s front).callers[number]? =
        some (.underway (.acting (.guarantee key seconds) reading)) →
      ((after s front).move (.advance number clock)).callers[number]? =
        some (.underway (.returned (.flag true))) →
      (∀ p ∈ ((after s front).move (.advance number clock)).movers moves, ¬ p.Puts key ∧
        ¬ p.Drops key ∧ ∀ now, p.Evicts key now →
          now.toNat < min (reading.toNat + 1000 * seconds.toNat) Time.last) →
        ∃ t t', (after s front).store.entries[key]? = some t ∧
          (((after s front).move (.advance number clock)).run moves).store.entries[key]? =
            some t' ∧
          t'.item = t.item ∧
          min (reading.toNat + 1000 * seconds.toNat) Time.last ≤ t'.deadline.toNat ∧
          ∀ now : UInt64, now.toNat < min (reading.toNat + 1000 * seconds.toNat) Time.last →
            ((((after s front).move (.advance number clock)).run moves).store.readAt now key).1 =
              some t.item) ∧
    (after s front).callers.countP Progress.sweeps ≤ 1 ∧
    ∀ (number : Nat) (clock : UInt64) (p : Progress κ α), p ∈ (after s front).callers →
      p.sweeps = true → (after s front).callers[number]? = some (.called .clean) →
        (after s front).move (.advance number clock) =
          { store := (after s front).store
            callers :=
              (after s front).callers.set number (.underway (.returned (.removed 0))) } := by
  have hcount := countP_sweeps hs front
  refine ⟨?_, ?_, ?_, ?_, ?_⟩
  · intro m key t ht
    exact outlasts_move _ m ht
  · intro moves key t' hmovers ht'
    exact outlasted_run hmovers ht'
  · intro number clock reading seconds key moves hcaller hgiven hmovers
    exact guarantee_kept hcaller hgiven hmovers
  · rw [hcount]
    exact Bool.toNat_le _
  · intro number clock p hp hsweeps hcaller
    -- the sweep that is active has the store marked
    have hpos : 0 < (after s front).callers.countP Progress.sweeps :=
      List.countP_pos_iff.2 ⟨p, hp, hsweeps⟩
    rw [hcount] at hpos
    cases hmark : (after s front).store.sweeping with
    | true => exact clean_of_sweeping hcaller hmark clock
    | false => simp [hmark] at hpos

/-- An item is stored at 1 s for 5 s. A sweep reads the clock at 9 s, then a guarantee of a minute
that had read it at 2 s is given, and then the sweep goes on. -/
def staleSweep : List (Move Nat Nat) :=
  [.call (.put 1 7 none), .advance 0 0, .advance 0 1000, .advance 0 0,
    .call (.guarantee 1 60), .advance 1 0, .advance 1 2000,
    .call .clean, .advance 2 0, .advance 2 9000]

/-- The guarantee comes after the sweep has read the clock, and the entry stays. -/
theorem live_kept_stale_sweep :
    (ObjectStore.new 5 10 : ObjectStore Nat Nat).sweeping = false ∧
      (after (ObjectStore.new 5 10) staleSweep).callers[1]? =
        some (.underway (.acting (.guarantee 1 60) 2000)) ∧
      ∃ t t', (after (ObjectStore.new 5 10) staleSweep).store.entries[1]? = some t ∧
        (((after (ObjectStore.new 5 10) staleSweep).move (.advance 1 0)).run
          [.advance 2 0]).store.entries[1]? = some t' ∧
        t'.item = t.item ∧ 62000 ≤ t'.deadline.toNat ∧
        ∀ now : UInt64, now.toNat < 62000 →
          ((((after (ObjectStore.new 5 10) staleSweep).move (.advance 1 0)).run
            [.advance 2 0]).store.readAt now 1).1 = some t.item := by
  have hcaller : (after (ObjectStore.new 5 10) staleSweep).callers[1]? =
      some (.underway (.acting (.guarantee 1 60) 2000)) := rfl
  have hgiven : ((after (ObjectStore.new 5 10) staleSweep).move (.advance 1 0)).callers[1]? =
      some (.underway (.returned (.flag true))) := rfl
  have hmovers : ((after (ObjectStore.new 5 10) staleSweep).move (.advance 1 0)).movers
      [.advance 2 0] = [.underway (.sweepActing .clean 9000)] := rfl
  obtain ⟨-, -, hguarantee, -, -⟩ := live_kept (s := (ObjectStore.new 5 10)) rfl staleSweep
  refine ⟨rfl, hcaller, hguarantee 1 0 2000 60 1 [.advance 2 0] hcaller hgiven ?_⟩
  rw [hmovers]
  intro p hp
  obtain rfl := List.mem_singleton.1 hp
  refine ⟨?_, ?_, ?_⟩
  · rintro ⟨item, lifetime, now, hputs⟩
    cases hputs
  · rintro (⟨now, hremoves⟩ | hresets)
    · cases hremoves
    · cases hresets
  · rintro now (hreads | ⟨occasion, hsweeps⟩)
    · cases hreads
    · cases hsweeps
      decide

end Crowd
end ObjectStore
end CacheService
