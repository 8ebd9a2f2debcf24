import Till.Proofs.Attempts

/-!
# Requests to sell that race for a key

A terminal that gets no answer sends its request again, and the two may be handled by different
processes at the same time.  `Rush` is the state of a till at which requests to sell are in any of
their phases, while everything else that can be under way is.  A state is `Rush.InOrder` with the
outcome under a key, if there is one already, and every move keeps it so (`Rush.InOrder.move`).

* `Rush.SellsOnce` : what is promised of the requests under a key, that at most one of them sells,
  that all that return a transaction return this one, and that the others write nothing;
* `Engine.sellsOncePerRush_iff` : the promise is kept, within a lifetime of the key, exactly if the
  written form of the instants keeps their order.
-/

namespace Till

open Engine (KeyUse)

/-- A request to sell and what has become of it. -/
structure Attempt where
  /-- The request. -/
  checkout : Checkout
  /-- What has become of it. -/
  phase : Checkout.Phase := .arrived
  /-- Whether one of its phases has changed the store. -/
  wrote : Prop := False

/-- Whether a request to sell is one under the key. -/
def Checkout.IsUnder (q : Checkout) (k : KeyUse) : Prop := (q.use k.now).Same k

/-- The sales that were planned at one time and booked at another. -/
def Race.sales {κ : Type} (r : Race κ) : List Plan := r.booked.filter Plan.isSale

/-- **A till at which requests to sell race**, among other requests under way. -/
structure Rush (κ : Type) where
  /-- The till with the other requests. -/
  race : Race κ
  /-- The requests to sell. -/
  attempts : List Attempt

namespace Rush

variable {κ : Type}

/-- The requests have arrived. -/
def start (race : Race κ) (requests : List Checkout) : Rush κ :=
  ⟨race, requests.map fun q => { checkout := q }⟩

/-- **What can happen next**, while the clock does not go back and shows only the given instants. -/
inductive Move (e : Engine) (c : CacheAccess κ) (shown : Instant → Prop) (r : Rush κ) :
    Rush κ → Prop
  /-- Something that is no phase of a request to sell.  A whole request to sell may be handled, but
  no sale that was planned before is booked. -/
  | other {race : Race κ} (move : Race.Move e c r.race race) (sales : race.sales = r.race.sales)
      (forward : r.race.world.now ≤ race.world.now) (time : shown race.world.now) :
      Move e c shown r { r with race }
  /-- The next phase of a request to sell. -/
  | advance {before after : List Attempt} {a : Attempt} {phase : Checkout.Phase} {store : Store}
      (attempts : r.attempts = before ++ a :: after)
      (next : a.checkout.advance e r.race.world.now (a.phase, r.race.store) = (phase, store)) :
      Move e c shown r {
        race := { r.race with world := { r.race.world with store } }
        attempts := before ++
          { a with phase, wrote := a.wrote ∨ store ≠ r.race.store } :: after }

/-- **A state comes later** than another one: moves lead from one to the other. -/
def Later (e : Engine) (c : CacheAccess κ) (shown : Instant → Prop) : Rush κ → Rush κ → Prop :=
  Relation.ReflTransGen (Move e c shown)

/-- **Requests under a key sell once**: what is promised of them since the store was an older
one. -/
structure SellsOnce (k : KeyUse) (old : Store) (r : Rush κ) : Prop where
  /-- At most one transaction is new under the key. -/
  unique : ∀ t ∈ r.race.store.transactions, ∀ t' ∈ r.race.store.transactions,
    t.IsNew k old → t'.IsNew k old → t = t'
  /-- A transaction that is returned is this one, as it was sold. -/
  answered : ∀ a ∈ r.attempts, a.checkout.IsUnder k → ∀ t, a.phase.answer? = some (.ok t) →
    ∃ t' ∈ r.race.store.transactions, t'.IsNew k old ∧ t = t'.asSold
  /-- A request whose key was found taken when it was to be booked has written nothing. -/
  lost : ∀ a ∈ r.attempts, a.phase.isLost = true → ¬a.wrote

/-! ### What every move keeps -/

/-- **A rush is in order** with what has come of the requests under a key, if anything has. -/
structure InOrder (e : Engine) (shown : Instant → Prop) (k : KeyUse) (old : Store) (r : Rush κ)
    (outcome? : Option (Result Transaction)) : Prop where
  orderly : r.race.Orderly e
  time : shown r.race.world.now
  grown : old.Precedes r.race.store
  state : r.race.store.KeyState e.keyLifetime shown k old outcome?
  fits : ∀ a ∈ r.attempts, a.phase.Fits e a.checkout shown r.race.store
  answers : ∀ a ∈ r.attempts, a.checkout.IsUnder k → ∀ t, a.phase.answer? = some (.ok t) →
    outcome? = some (.ok t)
  /-- A request that has written has its answer, and did not find its key taken. -/
  writes : ∀ a ∈ r.attempts, a.wrote → a.phase.answer?.isSome = true ∧ a.phase.isLost = false

variable {e : Engine} {c : CacheAccess κ} {shown : Instant → Prop} {k : KeyUse} {old : Store}
  {r r' : Rush κ} {outcome? : Option (Result Transaction)}

/-- **Nothing has come of the requests at the start**, if there is no record under the key. -/
theorem inOrder_start {race : Race κ} (h : race.Orderly e) (time : shown race.world.now)
    (requests : List Checkout) (free : ∀ o ∈ race.store.outcomes, k.owns o = false) :
    (start race requests).InOrder e shown k race.store none := by
  have harrived : ∀ a ∈ (start race requests).attempts, a.phase = .arrived ∧ ¬a.wrote := by
    intro a ha
    obtain ⟨q, -, rfl⟩ := List.mem_map.1 ha
    exact ⟨rfl, id⟩
  refine ⟨h, time, .refl _, ⟨?_, ?_, ?_⟩, ?_, ?_, ?_⟩
  · refine List.filter_eq_nil_iff.2 ?_
    intro o ho
    rw [free o ho]
    exact Bool.false_ne_true
  · rintro t ⟨⟩
  · intro t ht hnew
    exact absurd (List.mem_map_of_mem ht) hnew.2
  · intro a ha
    rw [(harrived a ha).1]
    trivial
  · intro a ha _ t hanswer
    rw [(harrived a ha).1] at hanswer
    cases hanswer
  · intro a ha hwrote
    exact absurd hwrote (harrived a ha).2

/-- What is no phase of a request to sell does one of the things listed under keys. -/
theorem event_of_move {race race' : Race κ} (move : Race.Move e c race race')
    (sales : race'.sales = race.sales) (time : shown race.world.now)
    (representable : ∀ t, shown t → t.IsRepresentable) :
    ∃ entry, KeyEvent e.keyLifetime shown race.store race'.store entry := by
  cases move with
  | whole step =>
    rcases e.apply_change c race.world step with hsame | hchange
    · exact ⟨none, .of_same time (congrArg Store.outcomes hsame) (congrArg Store.sales hsame)⟩
    · exact hchange.event time (representable _ time)
  | admission | plan => exact ⟨none, .of_same time rfl rfl⟩
  | @book p after waits done =>
    have hsale : p.isSale = false := by
      by_contra hsale
      simp [Race.sales, hsale] at sales
    exact ⟨none, Plan.event hsale (Engine.book_eq_ok.1 done) time⟩

/-- **Every move keeps a rush in order.** -/
theorem InOrder.move (h : r.InOrder e shown k old outcome?)
    (kept : Store.KeepsAll e.keyLifetime shown) (representable : ∀ t, shown t → t.IsRepresentable)
    (hmove : Move e c shown r r') : ∃ later?, r'.InOrder e shown k old later? := by
  have orderly := h.orderly
  cases hmove with
  | @other race move sales forward time =>
    have hprecedes := orderly.precedes move
    obtain ⟨entry, hevent⟩ := event_of_move move sales h.time representable
    obtain ⟨later?, hstate, hstays, -⟩ := h.state.event kept h.grown hprecedes hevent
    refine ⟨later?, orderly.move move, time, h.grown.trans hprecedes, hstate, ?_, ?_, h.writes⟩
    · intro a ha
      exact (h.fits a ha).mono hprecedes
    · intro a ha hunder t hanswer
      exact hstays _ (h.answers a ha hunder t hanswer)
  | @advance before after a phase store attempts next =>
    have ha : a ∈ r.attempts := attempts ▸ List.mem_append_right _ List.mem_cons_self
    have hothers : ∀ b, b ∈ before ∨ b ∈ after → b ∈ r.attempts := by
      intro b hb
      rw [attempts]
      exact List.mem_append.2 (hb.imp_right (List.mem_cons_of_mem a))
    obtain ⟨entry, hadvances⟩ := Checkout.advances h.time orderly.sound.keyed orderly.logs
      representable (h.fits a ha)
    rw [next] at hadvances
    have hprecedes := orderly.precedes_of hadvances.effect
    obtain ⟨later?, hstate, hstays, hentered⟩ :=
      h.state.event kept h.grown hprecedes hadvances.event
    -- The other requests are where they were.
    have hmem : ∀ {P : Attempt → Prop}, (∀ b ∈ r.attempts, P b) →
        P { a with phase, wrote := a.wrote ∨ store ≠ r.race.store } → ∀ b ∈ before ++
          { a with phase, wrote := a.wrote ∨ store ≠ r.race.store } :: after, P b := by
      intro P hold hnew b hb
      rcases List.mem_append.1 hb with hb | hb
      · exact hold b (hothers b (.inl hb))
      · rcases List.mem_cons.1 hb with rfl | hb
        · exact hnew
        · exact hold b (hothers b (.inr hb))
    refine ⟨later?, orderly.of_world (w := { r.race.world with store }) hadvances.effect, h.time,
      h.grown.trans hprecedes, hstate, hmem ?_ hadvances.fits, hmem ?_ ?_, hmem h.writes ?_⟩
    · intro b hb
      exact (h.fits b hb).mono hprecedes
    · intro b hb hunder t hanswer
      exact hstays _ (h.answers b hb hunder t hanswer)
    · intro hunder t hanswer
      rcases hadvances.answer t hanswer with hbefore | ⟨k', record, hsame, hfound, hreplay⟩ |
        ⟨k', hsame, hentry⟩
      · exact hstays _ (h.answers a ha hunder t hbefore)
      · have hrecalled := h.state.recalls.replay (hsame.trans hunder) hfound
        rw [hreplay] at hrecalled
        exact hstays _ hrecalled
      · exact hentered k' _ hentry (hsame.trans hunder)
    · rintro (hwrote | hwrites)
      · -- A request that has written does nothing more.
        obtain ⟨hanswered, hlost⟩ := h.writes a ha hwrote
        rw [Checkout.advance_of_answered hanswered] at next
        rw [← (Prod.mk.inj next).1]
        exact ⟨hanswered, hlost⟩
      · exact hadvances.writes.resolve_left hwrites

/-- **Every rush stays in order.** -/
theorem InOrder.later (h : r.InOrder e shown k old outcome?)
    (kept : Store.KeepsAll e.keyLifetime shown) (representable : ∀ t, shown t → t.IsRepresentable)
    (hlater : Later e c shown r r') : ∃ later?, r'.InOrder e shown k old later? := by
  induction hlater with
  | refl => exact ⟨outcome?, h⟩
  | tail _ hmove ih =>
    obtain ⟨later?, hmid⟩ := ih
    exact hmid.move kept representable hmove

/-- **In a rush that is in order, requests under the key sell once.** -/
theorem InOrder.sellsOnce (h : r.InOrder e shown k old outcome?) : r.SellsOnce k old := by
  refine ⟨?_, ?_, ?_⟩
  · intro t ht t' ht' hnew hnew'
    obtain ⟨t₀, hsold, hid⟩ := h.state.sales t ht hnew
    obtain ⟨t₁, hsold', hid'⟩ := h.state.sales t' ht' hnew'
    rw [hsold] at hsold'
    cases hsold'
    exact List.inj_on_of_nodup_map h.orderly.sound.keyed.transactions ht ht' (hid.trans hid'.symm)
  · intro a ha hunder t hanswer
    obtain ⟨hasSold, hnew, t', ht', hprecedes⟩ := h.state.sold t (h.answers a ha hunder t hanswer)
    exact ⟨t', ht', hprecedes.isNew hnew, by rw [hprecedes.asSold, hasSold]⟩
  · intro a ha hlost hwrote
    have hnot := (h.writes a ha hwrote).2
    rw [hlost] at hnot
    cases hnot

end Rush

/-! ### A rush in which two requests sell -/

namespace DoubleSale

variable {lifetime : Int} {shown : Instant → Prop} {s after : Store} {id : String} {sh : Shift}
  {now later now₁ now₂ : Instant}

/-- A request to sell the cart. -/
def request (id : String) : Checkout := ⟨ids id, manager, cart, "key"⟩

/-- The unit of work of the sale of the cart at an instant. -/
def unit (lifetime : Int) (id : String) (now : Instant) : SaleUnit :=
  Engine.saleUnit (ids id) (claim lifetime now) (sold id now)

theorem advance_arrived (h : (now.shift lifetime).IsRepresentable)
    (free : ((request id).use now).record? s = none) :
    (request id).advance (till lifetime) now (.arrived, s) =
      (.claimed (claim lifetime now), s) := by
  have claims := claims_of_free h free
  rw [request] at free
  simp only [Checkout.advance, request, claims.wellFormed, Field.Check.run, Outcome.ofCheck, free,
    claims.made]

theorem advance_claimed (open' : Engine.currentShift manager s = .ok sh) (hid : sh.id = "5") :
    (request id).advance (till lifetime) now (.claimed (claim lifetime now), s) =
      (.planned (claim lifetime now) (unit lifetime id now), s) := by
  have hplan := planSale_eq lifetime now id open' hid
  simp only [Checkout.advance, request, hplan, unit]

theorem advance_planned (time : Instant) (open' : Engine.currentShift manager s = .ok sh)
    (hid : sh.id = "5") {t : Transaction}
    (h : (till lifetime).sale (ids id) now manager cart (claim lifetime now) s = .ok (t, after)) :
    (request id).advance (till lifetime) time
        (.planned (claim lifetime now) (unit lifetime id now), s) =
      (.sold (sold id now), after) := by
  have hcommit : s.commitSale (unit lifetime id now) = .ok after :=
    Engine.commitSale_of_sale (planSale_eq lifetime now id open' hid) h
  have hbook : Engine.book (fun s => s.commitSale (unit lifetime id now)) s = (.ok (), after) :=
    Engine.book_eq_ok.2 hcommit
  simp only [Checkout.advance, hbook]
  rfl

/-- A rush with two requests. -/
def scene (now : Instant) (s : Store) (p : Checkout.Phase) (wrote : Prop) (p' : Checkout.Phase)
    (wrote' : Prop) : Rush Cache :=
  ⟨{ world := world s now }, [⟨request "6", p, wrote⟩, ⟨request "7", p', wrote'⟩]⟩

/-- **The two requests get into the given phases** at an instant, with the given store. -/
def Comes (lifetime : Int) (shown : Instant → Prop) (start : Race Cache) (now : Instant) (s : Store)
    (p p' : Checkout.Phase) : Prop :=
  ∃ wrote wrote', Rush.Later (till lifetime) Cache.access shown
    (Rush.start start [request "6", request "7"]) (scene now s p wrote p' wrote')

namespace Comes

variable {start : Race Cache} {p p' next : Checkout.Phase}

theorem first (h : Comes lifetime shown start now s p p')
    (hnext : (request "6").advance (till lifetime) now (p, s) = (next, after)) :
    Comes lifetime shown start now after next p' := by
  obtain ⟨wrote, wrote', hlater⟩ := h
  have hsplit : (scene now s p wrote p' wrote').attempts =
      [] ++ ⟨request "6", p, wrote⟩ :: [⟨request "7", p', wrote'⟩] := rfl
  have hmove : Rush.Move (till lifetime) Cache.access shown (scene now s p wrote p' wrote')
      (scene now after next (wrote ∨ after ≠ s) p' wrote') := .advance hsplit hnext
  exact ⟨_, _, hlater.tail hmove⟩

theorem second (h : Comes lifetime shown start now s p p')
    (hnext : (request "7").advance (till lifetime) now (p', s) = (next, after)) :
    Comes lifetime shown start now after p next := by
  obtain ⟨wrote, wrote', hlater⟩ := h
  have hsplit : (scene now s p wrote p' wrote').attempts =
      [⟨request "6", p, wrote⟩] ++ ⟨request "7", p', wrote'⟩ :: [] := rfl
  have hmove : Rush.Move (till lifetime) Cache.access shown (scene now s p wrote p' wrote')
      (scene now after p wrote next (wrote' ∨ after ≠ s)) := .advance hsplit hnext
  exact ⟨_, _, hlater.tail hmove⟩

theorem wait (h : Comes lifetime shown start now s p p') (hforward : now ≤ later)
    (hshown : shown later) : Comes lifetime shown start later s p p' := by
  obtain ⟨wrote, wrote', hlater⟩ := h
  have hmove : Rush.Move (till lifetime) Cache.access shown (scene now s p wrote p' wrote')
      (scene later s p wrote p' wrote') :=
    .other (.whole (.time later)) rfl hforward hshown
  exact ⟨wrote, wrote', hlater.tail hmove⟩

end Comes

/-- The till with two units, at another time. -/
def stockedRace (origin now : Instant) : Race Cache := { world := world (stocked origin) now }

theorem reachable_stockedRace (lifetime : Int) (origin now : Instant) :
    Race.Reachable (till lifetime) Cache.access (stockedRace origin now) := by
  refine ⟨origin, .absent, ?_⟩
  have hrun := Race.later_run (till lifetime) Cache.access (Race.start origin .absent)
    (stocking ++ [.time now])
  rw [Race.start, Engine.run_append, run_stocking] at hrun
  exact hrun

/-- **Two requests are planned**, each at its own time, before either is booked. -/
theorem comes_planned (hfirst : (now₁.shift lifetime).IsRepresentable)
    (hsecond : (now₂.shift lifetime).IsRepresentable) (shown₁ : shown now₁)
    (shown₂ : shown now₂) : ∃ start now, shown start ∧ shown now ∧
      Comes lifetime shown (stockedRace now₁ start) now (stocked now₁)
        (.planned (claim lifetime now₁) (unit lifetime "6" now₁))
        (.planned (claim lifetime now₂) (unit lifetime "7" now₂)) := by
  have hstart : ∀ now, Comes lifetime shown (stockedRace now₁ now) now (stocked now₁)
      .arrived .arrived := fun now => ⟨_, _, .refl⟩
  rcases Int.le_total now₁.tick now₂.tick with hle | hle
  · refine ⟨now₁, now₂, shown₁, shown₂, ?_⟩
    have hplanned := ((hstart now₁).first (advance_arrived hfirst rfl)).first
      (advance_claimed rfl rfl)
    exact ((hplanned.wait hle shown₂).second (advance_arrived hsecond rfl)).second
      (advance_claimed rfl rfl)
  · refine ⟨now₂, now₁, shown₂, shown₁, ?_⟩
    have hplanned := ((hstart now₂).second (advance_arrived hsecond rfl)).second
      (advance_claimed rfl rfl)
    exact ((hplanned.wait hle shown₁).first (advance_arrived hfirst rfl)).first
      (advance_claimed rfl rfl)

/-- **Where a lifetime is not kept, both requests sell.** -/
theorem comes_sold (hfirst : (now₁.shift lifetime).IsRepresentable)
    (hsecond : (now₂.shift lifetime).IsRepresentable) (shown₁ : shown now₁)
    (shown₂ : shown now₂)
    (hkept : Instant.keptBefore now₂ (now₁.shift lifetime) = false) :
    ∃ start now after, shown start ∧ after.transactions = [sold "6" now₁, sold "7" now₂] ∧
      Comes lifetime shown (stockedRace now₁ start) now after (.sold (sold "6" now₁))
        (.sold (sold "7" now₂)) := by
  obtain ⟨start, now, hstart, -, hplanned⟩ := comes_planned hfirst hsecond shown₁ shown₂
  have hbooked := hplanned.first (advance_planned now rfl rfl first_sale)
  obtain ⟨after, hsale, htransactions⟩ := second_sale (record?_soldOnce hkept)
  exact ⟨start, now, after, hstart, htransactions,
    hbooked.second (advance_planned now rfl rfl hsale)⟩

end DoubleSale

/-! ### What is promised of requests that race -/

/-- **Lifetimes last** on a clock that shows only the given instants: what it shows before the end
of a lifetime, whose beginning it shows as well, earlier or later, is also kept before that end. -/
def LifetimesLast (lifetime : Int) (shown : Instant → Prop) : Prop :=
  ∀ now start, shown now → shown start → now < start.shift lifetime →
    Instant.keptBefore now (start.shift lifetime) = true

/-- **In the years 0 to 9999** lifetimes last. -/
theorem lifetimesLast_of_plainYears {lifetime : Int} {shown : Instant → Prop}
    (h : ∀ t, shown t → t.hasPlainYear = true ∧ (t.shift lifetime).hasPlainYear = true) :
    LifetimesLast lifetime shown := by
  intro now start hnow hstart hlt
  rw [Instant.keptBefore, (h now hnow).1, (h start hstart).2]
  exact decide_eq_true hlt

/-- A day after the first hour of 1970 begins after that hour. -/
theorem Instant.shift_day {t : Instant} (hlow : 0 ≤ t.tick) (hhigh : t.tick < 60 * ticksPerMinute) :
    60 * ticksPerMinute ≤ (t.shift 86400000000000).tick ∧
      (t.shift 86400000000000).tick < 2000 * ticksPerMinute := by
  have hseconds : ¬Int.tdiv 86400000000000 perSecond = 0 := by decide
  simp only [ticksPerMinute] at hhigh
  simp only [shift, hseconds, false_and, and_false, if_false]
  split <;> simp only [ofElapsed, ofMinute, elapsed, minute, within, perSecond, perMinute,
    ticksPerMinute] <;> omega

namespace Engine

variable {lifetime : Int} {shown : Instant → Prop}

/-- **A till sells once in a rush**: whatever has happened before and whatever happens meanwhile,
requests to sell that race for a key without a record sell once. -/
def SellsOncePerRush {κ : Type} (e : Engine) (c : CacheAccess κ) (shown : Instant → Prop) : Prop :=
  ∀ race : Race κ, Race.Reachable e c race → shown race.world.now →
    ∀ (requests : List Checkout) (k : KeyUse), (∀ o ∈ race.store.outcomes, k.owns o = false) →
      ∀ r, Rush.Later e c shown (Rush.start race requests) r → r.SellsOnce k race.store

theorem lifetimesLast_of_sellsOncePerRush
    (hshown : ∀ t, shown t → t.IsRepresentable ∧ (t.shift lifetime).IsRepresentable)
    (h : (DoubleSale.till lifetime).SellsOncePerRush Cache.access shown) :
    LifetimesLast lifetime shown := by
  intro now start hnow hstart _
  cases hkept : Instant.keptBefore now (start.shift lifetime) with
  | true => rfl
  | false =>
    -- Two requests sell, and both transactions are new.
    obtain ⟨begin, later, after, hbegin, htransactions, wrote, wrote', hlater⟩ :=
      DoubleSale.comes_sold (hshown start hstart).2 (hshown now hnow).2 hstart hnow hkept
    have honce := h _ (DoubleSale.reachable_stockedRace lifetime start begin) hbegin _
      ⟨"store", "manager", "key", start⟩ (fun _ ho => absurd ho List.not_mem_nil) _ hlater
    have hmem : ∀ t ∈ [DoubleSale.sold "6" start, DoubleSale.sold "7" now],
        t ∈ after.transactions := by
      intro t ht
      rw [htransactions]
      exact ht
    have hsame := honce.unique _ (hmem _ List.mem_cons_self) _
      (hmem _ (List.mem_cons_of_mem _ List.mem_cons_self))
      ⟨⟨rfl, rfl, rfl⟩, List.not_mem_nil⟩ ⟨⟨rfl, rfl, rfl⟩, List.not_mem_nil⟩
    have hid : "6" = "7" := congrArg Transaction.id hsame
    exact absurd hid (by decide)

/-- **Within a lifetime, a till sells once in a rush exactly if lifetimes last**, which depends on
the instants that its clock shows. -/
theorem sellsOncePerRush_iff
    (hshown : ∀ t, shown t → t.IsRepresentable ∧ (t.shift lifetime).IsRepresentable)
    (within : ∀ now start, shown now → shown start → now < start.shift lifetime) :
    (∀ (κ : Type) (e : Engine) (c : CacheAccess κ), e.keyLifetime = lifetime →
      e.SellsOncePerRush c shown) ↔ LifetimesLast lifetime shown := by
  constructor
  · intro h
    exact lifetimesLast_of_sellsOncePerRush hshown
      (h Cache (DoubleSale.till lifetime) Cache.access rfl)
  · rintro last κ e c rfl race hreachable hnow requests k free r hlater
    have hstart := Rush.inOrder_start hreachable.orderly hnow requests free
    have kept : Store.KeepsAll e.keyLifetime shown := fun now start hnow hstart =>
      last now start hnow hstart (within now start hnow hstart)
    obtain ⟨outcome?, horder⟩ := hstart.later kept (fun t ht => (hshown t ht).1) hlater
    exact horder.sellsOnce

/-- Under keys that last for a day, all goes well in the first hour of 1970. -/
theorem sellsOncePerRush_hour :
    let shown : Instant → Prop := fun t => 0 ≤ t.tick ∧ t.tick < 60 * Instant.ticksPerMinute
    (∀ t, shown t → t.IsRepresentable ∧ (t.shift 86400000000000).IsRepresentable) ∧
      (∀ now start, shown now → shown start → now < start.shift 86400000000000) ∧
      ∀ (κ : Type) (e : Engine) (c : CacheAccess κ), e.keyLifetime = 86400000000000 →
        e.SellsOncePerRush c shown := by
  intro shown
  have hplain : ∀ t : Instant, 0 ≤ t.tick → t.tick < 2000 * Instant.ticksPerMinute →
      t.hasPlainYear = true := by
    intro t hlow hhigh
    have hfirst : (Instant.startOfYear 0).tick ≤ 0 := by decide +kernel
    have hlast : 2000 * Instant.ticksPerMinute ≤ (Instant.startOfYear 10000).tick := by
      decide +kernel
    rw [Instant.hasPlainYear, Bool.and_eq_true, decide_eq_true_eq, decide_eq_true_eq]
    exact ⟨Int.le_trans hfirst hlow, Int.lt_of_lt_of_le hhigh hlast⟩
  have hyears : ∀ t, shown t →
      t.hasPlainYear = true ∧ (t.shift 86400000000000).hasPlainYear = true := by
    rintro t ⟨hlow, hhigh⟩
    obtain ⟨hafter, hbefore⟩ := Instant.shift_day hlow hhigh
    refine ⟨hplain t hlow (Int.lt_trans hhigh (by decide)), hplain _ ?_ hbefore⟩
    exact Int.le_trans (by decide) hafter
  have hshown : ∀ t, shown t → t.IsRepresentable ∧ (t.shift 86400000000000).IsRepresentable :=
    fun t ht => ⟨isRepresentable_of_hasPlainYear (hyears t ht).1,
      isRepresentable_of_hasPlainYear (hyears t ht).2⟩
  have within : ∀ now start, shown now → shown start → now < start.shift 86400000000000 :=
    fun now start hnow hstart =>
      Int.lt_of_lt_of_le hnow.2 (Instant.shift_day hstart.1 hstart.2).1
  have hlast := lifetimesLast_of_plainYears hyears
  exact ⟨hshown, within, (sellsOncePerRush_iff hshown within).2 hlast⟩

/-- At noon of 9999-12-31, a till whose keys last for a day may sell twice in a rush. -/
theorem not_sellsOncePerRush_lastNoon :
    let noon := Instant.ofMinute (Calendar.yearStart 10000 * 1440 - 720) 0
    (noon.IsRepresentable ∧ (noon.shift 86400000000000).IsRepresentable) ∧
      noon < noon.shift 86400000000000 ∧
      ¬(DoubleSale.till 86400000000000).SellsOncePerRush Cache.access fun t => t = noon := by
  intro noon
  have hnoon : noon.IsRepresentable ∧ (noon.shift 86400000000000).IsRepresentable := by
    decide +kernel
  have hlt : noon < noon.shift 86400000000000 := by decide +kernel
  refine ⟨hnoon, hlt, ?_⟩
  intro h
  -- The end of the day is written with a sign, which comes before all digits.
  have hlast : LifetimesLast 86400000000000 fun t => t = noon :=
    lifetimesLast_of_sellsOncePerRush (fun t ht => ht ▸ hnoon) h
  have hkept := hlast noon noon rfl rfl hlt
  have hlost : Instant.keptBefore noon (noon.shift 86400000000000) = false := by decide +kernel
  rw [hlost] at hkept
  cases hkept

end Engine

end Till
