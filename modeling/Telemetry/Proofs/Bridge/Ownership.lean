import Telemetry.Proofs.Bridge.Releasing

/-!
# Who takes names away

Many bridges and visitors open rings under the same names, and bridges stop, are dropped or fail to
start in any order. A bridge remembers that it has made its ring, while the name may have gone and
been bound anew since. What saves the new ring is that a bridge holds on to the segment it made
until it is over, and releases it once: as long as a bridge holds a segment the name of its ring is
bound to that segment, and no two bridges hold the same one. No call of the operating system fails
here, and nobody else takes names away.

* `kept_run`: the invariant `Kept` holds after every list of acts.
* `accounted`: every segment that a bridge has made was made by a step of its opening (`Made`), and
  has not got its name back once the bridge is over (`Settled`).
* `only_makers_take_names`: from both, who takes a name away, when, and whose names stay.

## How the proof goes

`Kept` is an invariant of single acts. A bridge's deed has the effect that `BridgeStage.step_effect`
says, since the segment that the bridge holds is bound to its name. The other bridges are to keep
theirs: a new segment gets a number that nobody holds, and a name goes only with the segment of the
bridge that releases it, which no other bridge holds (`kept_bridge`). A visitor binds a free name at
most (`visit_effect`).

`Made` speaks of a first part of the acts, so `accounted` goes by induction from their end: what has
become of a segment is asked after each further act (`Settled.bridge`, `Settled.visit`). That a name
never comes back to an old segment is `SharedMemory.Ages`: bindings are to new segments only.
-/

namespace Telemetry

namespace Fleet

variable {ι κ σ : Type} {config : ι → BridgeConfig} {w w' : Fleet ι κ}

/-- The segment that a bridge has made and has still to release. -/
def held? (config : ι → BridgeConfig) (w : Fleet ι κ) (i : ι) : Option Nat :=
  (w.bridges i).held? (config i).ring

/-- Each bridge remembers what fits its configuration. Those that have a segment still to release
find it under the name of their ring, and no two of them hold the same. -/
structure Kept (config : ι → BridgeConfig) (w : Fleet ι κ) : Prop where
  serves : ∀ name, w.memory.Serves name
  sound : ∀ i, (w.bridges i).Sound (config i).ring
  bound : ∀ i id, w.held? config i = some id →
    w.memory.lookup? (config i).ring.name = some id ∧ id < w.memory.segments.size
  apart : ∀ i j id, w.held? config i = some id → w.held? config j = some id → i = j

theorem kept_begin {s₀ : SharedMemory} (hserves : ∀ name, s₀.Serves name) :
    (begin s₀ : Fleet ι κ).Kept config :=
  ⟨hserves, fun _ => trivial, nofun, nofun⟩

/-- Names that are bound stay so, and the bridges hold what they held. -/
theorem Kept.of_ages (hw : w.Kept config) (hages : w.memory.Ages w'.memory)
    (hkeeps : ∀ n id, w.memory.lookup? n = some id → w'.memory.lookup? n = some id)
    (hsound : ∀ i, (w'.bridges i).Sound (config i).ring)
    (hheld : ∀ i id, w'.held? config i = some id → w.held? config i = some id) :
    w'.Kept config where
  serves name := hages.serves (hw.serves name)
  sound := hsound
  bound i id hid := by
    obtain ⟨hbound, hlt⟩ := hw.bound i id (hheld i id hid)
    exact ⟨hkeeps _ id hbound, Nat.lt_of_lt_of_le hlt hages.size_le⟩
  apart i j id hi hj := hw.apart i j id (hheld i id hi) (hheld j id hj)

theorem effect (publisher : Publisher σ) (hw : w.Kept config) (i : ι)
    (deed : BridgeStage.Deed σ) :
    let next := (w.bridges i).step publisher (config i) deed w.memory
    next.1.Sound (config i).ring ∧
      BridgeStage.Effect (config i).ring deed (w.bridges i) next.1 w.memory next.2 :=
  BridgeStage.step_effect publisher (config i) deed _ _ (hw.serves _) (hw.sound i)
    fun id hid => (hw.bound i id hid).1

/-- A ring in hand that is shared and was created is of the bridge's making. -/
theorem Kept.made?_of_ring (hw : w.Kept config) {i : ι} {ring : Ring.Handle}
    (hring : (w.bridges i).ring? = some ring) (hshared : (config i).ring.inProcess = false)
    (hcreated : ring.created = true) :
    (w.bridges i).made? (config i).ring = some ring.segment := by
  have howns := Bridge.owns_eq_true.2 ⟨hshared, hcreated⟩
  have hsound := hw.sound i
  cases hstage : w.bridges i with
  | opened registry ring' =>
      rw [hstage] at hring
      obtain rfl := Option.some.inj hring
      rw [BridgeStage.made?, if_pos howns]
  | started b =>
      rw [hstage] at hring hsound
      obtain rfl := Option.some.inj hring
      rw [BridgeStage.made?, hsound.2.1, if_pos howns]
  | idle | opening _ _ | failed _ | dropped => rw [hstage] at hring; cases hring

variable [DecidableEq ι] [DecidableEq κ] {publisher : Publisher σ} {wanted : κ → String × Nat}

theorem bridges_step_of_ne {i j : ι} (h : j ≠ i) (deed : BridgeStage.Deed σ) :
    (w.step publisher config wanted (.bridge i deed)).bridges j = w.bridges j :=
  Function.update_of_ne h ..

theorem bridges_step_self (i : ι) (deed : BridgeStage.Deed σ) :
    (w.step publisher config wanted (.bridge i deed)).bridges i =
      ((w.bridges i).step publisher (config i) deed w.memory).1 :=
  Function.update_self ..

theorem held?_step_of_ne {i j : ι} (h : j ≠ i) (deed : BridgeStage.Deed σ) :
    (w.step publisher config wanted (.bridge i deed)).held? config j = w.held? config j := by
  rw [held?, bridges_step_of_ne h, held?]

theorem held?_step_self (i : ι) (deed : BridgeStage.Deed σ) :
    (w.step publisher config wanted (.bridge i deed)).held? config i =
      ((w.bridges i).step publisher (config i) deed w.memory).1.held? (config i).ring := by
  rw [held?, bridges_step_self]

/-- A segment that is held was held before by the same bridge, or it is new. -/
theorem Kept.held_cases (hw : w.Kept config) {i j : ι} {deed : BridgeStage.Deed σ} {id : Nat}
    (hid : (w.step publisher config wanted (.bridge i deed)).held? config j = some id) :
    w.held? config j = some id ∨ j = i ∧ id = w.memory.segments.size := by
  by_cases hji : j = i
  · subst hji
    rw [held?_step_self] at hid
    obtain ⟨hheld, -⟩ | ⟨-, -, -, hnew, -⟩ := (effect publisher hw j deed).2.held_cases hid
    · exact .inl hheld
    · exact .inr ⟨rfl, hnew⟩
  · rw [held?_step_of_ne hji] at hid
    exact .inl hid

theorem kept_bridge (hw : w.Kept config) (i : ι) (deed : BridgeStage.Deed σ) :
    (w.step publisher config wanted (.bridge i deed)).Kept config := by
  obtain ⟨hsound, heffect⟩ := effect publisher hw i deed
  refine ⟨fun name => heffect.ages.serves (hw.serves name), fun j => ?_, fun j id hid => ?_,
    fun j k id hj hk => ?_⟩
  · -- what the bridge remembers
    by_cases hji : j = i
    · subst hji
      rw [bridges_step_self]
      exact hsound
    · rw [bridges_step_of_ne hji]
      exact hw.sound j
  · -- what it holds is bound to its name, and so is what the others hold
    by_cases hji : j = i
    · subst hji
      rw [held?_step_self] at hid
      obtain ⟨hheld, hsame⟩ | ⟨-, -, hbound, -, hlt⟩ := heffect.held_cases hid
      · obtain ⟨hbound, hlt⟩ := hw.bound j id hheld
        exact ⟨hsame.trans hbound, Nat.lt_of_lt_of_le hlt heffect.ages.size_le⟩
      · exact ⟨hbound, hlt⟩
    · rw [held?_step_of_ne hji] at hid
      obtain ⟨hbound, hlt⟩ := hw.bound j id hid
      refine ⟨?_, Nat.lt_of_lt_of_le hlt heffect.ages.size_le⟩
      -- the name could only be lost to a bridge that holds the same segment
      obtain hkept | ⟨hname, -, -, -, ring, -, -, hring⟩ := heffect.keeps hbound
      · exact hkept
      · have hboundᵢ := (hw.bound i _ hring).1
        rw [← hname, hbound] at hboundᵢ
        obtain rfl := Option.some.inj hboundᵢ
        exact absurd (hw.apart j i _ hid hring) hji
  · -- two who hold one segment: a new one lies behind all that are held
    obtain hj' | ⟨rfl, rfl⟩ := hw.held_cases hj
    · obtain hk' | ⟨rfl, rfl⟩ := hw.held_cases hk
      · exact hw.apart j k id hj' hk'
      · exact absurd (hw.bound j _ hj').2 (Nat.lt_irrefl _)
    · obtain hk' | ⟨rfl, -⟩ := hw.held_cases hk
      · exact absurd (hw.bound k _ hk').2 (Nat.lt_irrefl _)
      · rfl

/-- What a visitor does to names: nothing, or it binds one that was free. -/
theorem visit_effect (publisher : Publisher σ) (wanted : κ → String × Nat) (hw : w.Kept config)
    (k : κ) :
    let next := w.step publisher config wanted (.visit k)
    w.memory.Ages next.memory ∧
      ∀ n id, w.memory.lookup? n = some id → next.memory.lookup? n = some id := by
  obtain ⟨hstart, hfree, hstep⟩ | ⟨-, hquiet⟩ := Ring.Opening.step_cases (wanted k).2
    (w.visitors k) (hw.serves (wanted k).1)
  · rw [step, hstep]
    exact ⟨w.memory.ages_withNamed .., fun n id hn =>
      SharedMemory.lookup?_withNamed_of_free hfree hn⟩
  · exact ⟨hquiet.ages, fun n id hn => (hquiet.lookup?_eq n).trans hn⟩

theorem kept_step (hw : w.Kept config) (act : Act ι κ σ) :
    (w.step publisher config wanted act).Kept config := by
  cases act with
  | bridge i deed => exact kept_bridge hw i deed
  | visit k =>
      obtain ⟨hages, hkeeps⟩ := visit_effect publisher wanted hw k
      exact hw.of_ages hages hkeeps hw.sound fun i id hid => hid

theorem kept_run (hw : w.Kept config) (acts : List (Act ι κ σ)) :
    (w.run publisher config wanted acts).Kept config := by
  induction acts generalizing w with
  | nil => exact hw
  | cons act acts ih => exact ih (kept_step hw act)

/-! ### What has happened -/

variable {s₀ : SharedMemory} {acts : List (Act ι κ σ)}

/-- A bridge has made a segment: with a step of its opening the name of its ring, which was free,
was bound to the segment. -/
def Made (publisher : Publisher σ) (config : ι → BridgeConfig) (wanted : κ → String × Nat)
    (s₀ : SharedMemory) (acts : List (Act ι κ σ)) (i : ι) (id : Nat) : Prop :=
  ∃ before after, acts = before ++ .bridge i .proceed :: after ∧
    let w := (begin s₀).run publisher config wanted before
    w.memory.lookup? (config i).ring.name = none ∧
    (w.step publisher config wanted (.bridge i .proceed)).memory.lookup? (config i).ring.name
      = some id

theorem run_concat (w : Fleet ι κ) (acts : List (Act ι κ σ)) (act : Act ι κ σ) :
    w.run publisher config wanted (acts ++ [act]) =
      (w.run publisher config wanted acts).step publisher config wanted act :=
  List.foldl_concat ..

theorem Made.concat {i : ι} {id : Nat} (h : Made publisher config wanted s₀ acts i id)
    (act : Act ι κ σ) : Made publisher config wanted s₀ (acts ++ [act]) i id := by
  obtain ⟨before, after, rfl, hmade⟩ := h
  exact ⟨before, after ++ [act], by simp, hmade⟩

/-- Whoever has made a segment has made it before the last act or with it. -/
theorem Made.concat_cases {i : ι} {id : Nat} {act : Act ι κ σ}
    (h : Made publisher config wanted s₀ (acts ++ [act]) i id) :
    Made publisher config wanted s₀ acts i id ∨
      act = .bridge i .proceed ∧
        let w := (begin s₀).run publisher config wanted acts
        w.memory.lookup? (config i).ring.name = none ∧
        (w.step publisher config wanted act).memory.lookup? (config i).ring.name = some id := by
  obtain ⟨before, after, hacts, hmade⟩ := h
  obtain rfl | ⟨after, last, rfl⟩ := after.eq_nil_or_concat
  · obtain ⟨rfl, hact⟩ := List.append_inj' hacts rfl
    obtain rfl := List.singleton_inj.1 hact
    exact .inr ⟨rfl, hmade⟩
  · refine .inl ⟨before, after, ?_, hmade⟩
    have hlast : acts ++ [act] = (before ++ .bridge i .proceed :: after) ++ [last] := by
      simpa using hacts
    exact (List.append_inj' hlast rfl).1

/-- What has become of a segment that a bridge has made: the bridge holds it, or the bridge is over,
and if it was to unlink the ring then the name is not bound to the segment. -/
def Settled (config : ι → BridgeConfig) (w : Fleet ι κ) (i : ι) (id : Nat) : Prop :=
  id < w.memory.segments.size ∧ (w.held? config i = some id ∨
    (w.bridges i).isOver = true ∧ ((config i).ring.unlinkOnExit = true →
      w.memory.lookup? (config i).ring.name ≠ some id))

theorem Settled.bridge (hw : w.Kept config) {j : ι} {id : Nat} (h : w.Settled config j id) (i : ι)
    (deed : BridgeStage.Deed σ) :
    (w.step publisher config wanted (.bridge i deed)).Settled config j id := by
  obtain ⟨hlt, hfate⟩ := h
  obtain ⟨-, heffect⟩ := effect publisher hw i deed
  refine ⟨Nat.lt_of_lt_of_le hlt heffect.ages.size_le, ?_⟩
  by_cases hji : j = i
  · subst hji
    rw [held?_step_self, bridges_step_self]
    -- its own deed: it holds on to the segment, or releases it and is over
    obtain hheld | ⟨hover, hgone⟩ := hfate
    · exact (heffect.holds hheld).imp_right fun ⟨hover', hgone'⟩ =>
        ⟨hover', fun hunlink => by simp [step, hgone' hunlink]⟩
    · exact .inr ⟨BridgeStage.isOver_step publisher _ deed _ hover, fun hunlink =>
        heffect.ages.lookup?_ne hlt (hgone hunlink)⟩
  · -- the deed of another: a name does not come back to an old segment
    rw [held?_step_of_ne hji, bridges_step_of_ne hji]
    exact hfate.imp_right fun ⟨hover, hgone⟩ =>
      ⟨hover, fun hunlink => heffect.ages.lookup?_ne hlt (hgone hunlink)⟩

theorem Settled.visit (hw : w.Kept config) {j : ι} {id : Nat} (h : w.Settled config j id) (k : κ) :
    (w.step publisher config wanted (.visit k)).Settled config j id := by
  obtain ⟨hlt, hfate⟩ := h
  obtain ⟨hages, -⟩ := visit_effect publisher wanted hw k
  exact ⟨Nat.lt_of_lt_of_le hlt hages.size_le, hfate.imp_right fun ⟨hover, hgone⟩ =>
    ⟨hover, fun hunlink => hages.lookup?_ne hlt (hgone hunlink)⟩⟩

/-- Which bridges have made which segments, and what has become of them. -/
structure Accounted (publisher : Publisher σ) (config : ι → BridgeConfig)
    (wanted : κ → String × Nat) (s₀ : SharedMemory) (acts : List (Act ι κ σ)) : Prop where
  origin : ∀ i id, (((begin s₀ : Fleet ι κ).run publisher config wanted acts).bridges i).made?
    (config i).ring = some id → Made publisher config wanted s₀ acts i id
  settled : ∀ i id, Made publisher config wanted s₀ acts i id →
    ((begin s₀ : Fleet ι κ).run publisher config wanted acts).Settled config i id

theorem accounted_nil : Accounted publisher config wanted s₀ ([] : List (Act ι κ σ)) := by
  refine ⟨nofun, fun i id hmade => ?_⟩
  obtain ⟨before, after, hacts, -⟩ := hmade
  simp at hacts

theorem accounted_bridge (hserves : ∀ name, s₀.Serves name)
    (h : Accounted publisher config wanted s₀ acts) (i : ι) (deed : BridgeStage.Deed σ) :
    Accounted publisher config wanted s₀ (acts ++ [.bridge i deed]) := by
  have hw : ((begin s₀ : Fleet ι κ).run publisher config wanted acts).Kept config :=
    kept_run (kept_begin hserves) acts
  obtain ⟨-, heffect⟩ := effect publisher hw i deed
  refine ⟨fun j id hid => ?_, fun j id hmade => ?_⟩
  · rw [run_concat] at hid
    by_cases hji : j = i
    · subst hji
      rw [bridges_step_self] at hid
      -- made with this deed, or in hand before it
      obtain hid | ⟨rfl, hfree, hbound, -⟩ := heffect.made_cases hid
      · exact (h.origin j id hid).concat _
      · exact ⟨acts, [], rfl, hfree, hbound⟩
    · rw [bridges_step_of_ne hji] at hid
      exact (h.origin j id hid).concat _
  · rw [run_concat]
    obtain hmade | ⟨hact, hfree, hbound⟩ := hmade.concat_cases
    · exact (h.settled j id hmade).bridge hw i deed
    · -- a segment that is made with this deed is held after it
      obtain ⟨rfl, rfl⟩ := Act.bridge.inj hact
      obtain ⟨hheld, hlt⟩ := heffect.of_bound hfree hbound
      exact ⟨hlt, .inl (by rw [held?_step_self, hheld])⟩

theorem accounted_visit (hserves : ∀ name, s₀.Serves name)
    (h : Accounted publisher config wanted s₀ acts) (k : κ) :
    Accounted publisher config wanted s₀ (acts ++ [.visit k]) := by
  have hw : ((begin s₀ : Fleet ι κ).run publisher config wanted acts).Kept config :=
    kept_run (kept_begin hserves) acts
  refine ⟨fun j id hid => ?_, fun j id hmade => ?_⟩
  · rw [run_concat] at hid
    exact (h.origin j id hid).concat _
  · rw [run_concat]
    obtain hmade | ⟨hact, -⟩ := hmade.concat_cases
    · exact (h.settled j id hmade).visit hw k
    · cases hact

theorem accounted (publisher : Publisher σ) (config : ι → BridgeConfig)
    (wanted : κ → String × Nat) (hserves : ∀ name, s₀.Serves name) (acts : List (Act ι κ σ)) :
    Accounted publisher config wanted s₀ acts := by
  -- the fate of a segment is told from the acts after it, so the last act comes off first
  induction acts using List.reverseRecOn with
  | nil => exact accounted_nil
  | append_singleton acts act ih =>
      cases act with
      | bridge i deed => exact accounted_bridge hserves ih i deed
      | visit k => exact accounted_visit hserves ih k

/-! ### Taking names away -/

/-- With this act a bridge takes the name of its ring away from a segment: it has the shared ring
that it created there in hand, is to unlink it, and is over after that. -/
structure Takes (publisher : Publisher σ) (config : ι → BridgeConfig) (wanted : κ → String × Nat)
    (w : Fleet ι κ) (act : Act ι κ σ) (i : ι) (n : String) (id : Nat) : Prop where
  deed : ∃ deed, act = .bridge i deed
  name_eq : n = (config i).ring.name
  shared : (config i).ring.inProcess = false
  unlinkOnExit : (config i).ring.unlinkOnExit = true
  ring : ∃ ring, (w.bridges i).ring? = some ring ∧ ring.created = true ∧ ring.segment = id
  ended : ((w.step publisher config wanted act).bridges i).isOver = true
  gone : (w.step publisher config wanted act).memory.lookup? n = none

/-- A name that is no longer bound as it was was taken by a bridge that held its segment. -/
theorem Kept.takes (hw : w.Kept config) (act : Act ι κ σ) {n : String} {id : Nat}
    (hn : w.memory.lookup? n = some id)
    (hgone : (w.step publisher config wanted act).memory.lookup? n ≠ some id) :
    ∃ i, w.held? config i = some id ∧ w.Takes publisher config wanted act i n id := by
  cases act with
  | visit k => exact absurd ((visit_effect publisher wanted hw k).2 n id hn) hgone
  | bridge i deed =>
      obtain ⟨-, heffect⟩ := effect publisher hw i deed
      obtain hkept | ⟨rfl, hunlink, hover, hnone, ring, hring, howns, hheld⟩ := heffect.keeps hn
      · exact absurd hkept hgone
      · obtain ⟨hshared, hcreated⟩ := Bridge.owns_eq_true.1 howns
        obtain rfl := Option.some.inj (hn.symm.trans (hw.bound i _ hheld).1)
        exact ⟨i, hheld, ⟨deed, rfl⟩, rfl, hshared, hunlink, ⟨ring, hring, hcreated, rfl⟩,
          by rw [bridges_step_self, hover], hnone⟩

theorem isOver_stopping {i : ι} {b : Bridge} (hb : w.bridges i = .started b) (now : Nat)
    (site : Site σ) :
    ((w.step publisher config wanted (.bridge i (.stop now site))).bridges i).isOver = true ∧
      ((w.step publisher config wanted (.bridge i (.drop now site))).bridges i).isOver = true := by
  rw [bridges_step_self, bridges_step_self, hb]
  exact ⟨(b.stop_keeps publisher now { site with memory := w.memory }).2, rfl⟩

/-- **Only who has made a ring takes its name away.** Whatever bridges and visitors do, in whatever
order: a name that is bound ceases to be only with a deed of the bridge that has made the very
segment it is bound to, has that ring in hand and is to unlink it. When a bridge that has made its
ring, and is to unlink it, has stopped, was dropped or has failed to start, the name is no longer
bound to what it made. A bridge that attached to its ring, or made none, or is not to unlink it, or
has a ring without a name, leaves every name as it is. -/
theorem only_makers_take_names (publisher : Publisher σ) (config : ι → BridgeConfig)
    (wanted : κ → String × Nat) (hserves : ∀ name, s₀.Serves name) (acts : List (Act ι κ σ)) :
    let w := (begin s₀).run publisher config wanted acts
    (∀ act n id, w.memory.lookup? n = some id →
      (w.step publisher config wanted act).memory.lookup? n ≠ some id →
      ∃ i, Made publisher config wanted s₀ acts i id ∧
        w.Takes publisher config wanted act i n id) ∧
    (∀ i id, Made publisher config wanted s₀ acts i id → (config i).ring.unlinkOnExit = true →
      (w.bridges i).isOver = true → w.memory.lookup? (config i).ring.name ≠ some id) ∧
    (∀ i ring, (w.bridges i).ring? = some ring → (config i).ring.inProcess = false →
      ring.created = true → Made publisher config wanted s₀ acts i ring.segment) ∧
    (∀ i b now site, w.bridges i = .started b →
      ((w.step publisher config wanted (.bridge i (.stop now site))).bridges i).isOver = true ∧
      ((w.step publisher config wanted (.bridge i (.drop now site))).bridges i).isOver = true) ∧
    ∀ i, (config i).ring.unlinkOnExit = false ∨ (config i).ring.inProcess = true ∨
        (∃ ring, (w.bridges i).ring? = some ring ∧ ring.created = false) ∨
        (∀ id, ¬ Made publisher config wanted s₀ acts i id) →
      ∀ deed n id, w.memory.lookup? n = some id →
        (w.step publisher config wanted (.bridge i deed)).memory.lookup? n = some id := by
  intro w
  have hw : w.Kept config := kept_run (kept_begin hserves) acts
  have hacc := accounted publisher config wanted hserves acts
  have htakes : ∀ act n id, w.memory.lookup? n = some id →
      (w.step publisher config wanted act).memory.lookup? n ≠ some id →
      ∃ i, Made publisher config wanted s₀ acts i id ∧
        w.Takes publisher config wanted act i n id := by
    intro act n id hn hgone
    obtain ⟨i, hheld, htakes⟩ := hw.takes act hn hgone
    exact ⟨i, hacc.origin i id (BridgeStage.made?_of_held? hheld), htakes⟩
  refine ⟨htakes, fun i id hmade hunlink hover => ?_, fun i ring hring hshared hcreated => ?_,
    fun i b now site hb => isOver_stopping hb now site, fun i hnot deed n id hn => ?_⟩
  · obtain ⟨-, hheld | ⟨-, hgone⟩⟩ := hacc.settled i id hmade
    · rw [held?, BridgeStage.held?_of_isOver hover] at hheld
      cases hheld
    · exact hgone hunlink
  · exact hacc.origin i _ (hw.made?_of_ring hring hshared hcreated)
  · by_contra hgone
    obtain ⟨i', hmade, htaken⟩ := htakes _ n id hn hgone
    obtain ⟨deed', hact⟩ := htaken.deed
    obtain ⟨rfl, -⟩ := Act.bridge.inj hact
    -- the bridge would have taken the name, which needs all four to be otherwise
    obtain hunlink | hprivate | ⟨ring, hring, hattached⟩ | hnone := hnot
    · simp [htaken.unlinkOnExit] at hunlink
    · simp [htaken.shared] at hprivate
    · obtain ⟨ring', hring', hcreated, -⟩ := htaken.ring
      obtain rfl := Option.some.inj (hring.symm.trans hring')
      simp [hcreated] at hattached
    · exact hnone id hmade

set_option maxRecDepth 30000 in
/-- The first bridge makes the ring, the second and a visitor attach. When the first stops, the name
goes, and the third bridge makes a ring anew. Neither the second nor the first, when it is dropped,
takes the name of that away. -/
theorem stopped_bridge_spares_new_ring :
    let config : BridgeConfig :=
      { BridgeConfig.standard with
        ring := ⟨"/ring", 8, false, true⟩
        specs := [⟨"v", .bool, none⟩] }
    let site : Site Publisher.Tally := ⟨1, .empty, default, ⟨0, 0⟩⟩
    let opens (i : Fin 3) : List (Act (Fin 3) (Fin 1) Publisher.Tally) :=
      .bridge i .begin :: List.replicate 5 (.bridge i .proceed)
    let acts := opens 0 ++ .bridge 0 (.launch 0 site) :: opens 1 ++ .bridge 1 (.launch 0 site) ::
      List.replicate 4 (.visit 0) ++ .bridge 0 (.stop 5 site) :: opens 2
    let w := (begin .empty).run Publisher.logging (fun _ => config) (fun _ => ("/ring", 8)) acts
    (∀ name, SharedMemory.empty.Serves name) ∧
      (w.bridges 0).ring? = some ⟨0, 8, true⟩ ∧ (w.bridges 0).isOver = true ∧
      (w.bridges 1).ring? = some ⟨0, 8, false⟩ ∧ (w.bridges 2).ring? = some ⟨1, 8, true⟩ ∧
      w.memory.lookup? "/ring" ≠ some 0 ∧
      (∀ deed, (w.step Publisher.logging (fun _ => config) (fun _ => ("/ring", 8))
        (.bridge 0 deed)).memory.lookup? "/ring" = some 1) ∧
      ∀ deed, (w.step Publisher.logging (fun _ => config) (fun _ => ("/ring", 8))
        (.bridge 1 deed)).memory.lookup? "/ring" = some 1 := by
  intro config site opens acts w
  have hserves : ∀ name, SharedMemory.empty.Serves name := fun _ => ⟨rfl, fun _ => rfl⟩
  have hfirst : (w.bridges 0).ring? = some ⟨0, 8, true⟩ := by cbv
  have hover : (w.bridges 0).isOver = true := by cbv
  have hsecond : (w.bridges 1).ring? = some ⟨0, 8, false⟩ := by cbv
  have hthird : (w.bridges 2).ring? = some ⟨1, 8, true⟩ := by cbv
  have hbound : w.memory.lookup? "/ring" = some 1 := by cbv
  obtain ⟨htakes, hgone, hmade, -, hspares⟩ := only_makers_take_names Publisher.logging
    (fun _ => config) (fun _ => ("/ring", 8)) hserves acts
  refine ⟨hserves, hfirst, hover, hsecond, hthird, ?_, fun deed => ?_, fun deed => ?_⟩
  · exact hgone 0 0 (hmade 0 _ hfirst rfl rfl) rfl hover
  · by_contra hlost
    obtain ⟨i, -, htaken⟩ := htakes (.bridge 0 deed) "/ring" 1 hbound hlost
    obtain ⟨_, hact⟩ := htaken.deed
    obtain ⟨rfl, -⟩ := Act.bridge.inj hact
    obtain ⟨ring, hring, -, hsegment⟩ := htaken.ring
    obtain rfl := Option.some.inj (hfirst.symm.trans hring)
    cases hsegment
  · exact hspares 1 (.inr (.inr (.inl ⟨_, hsecond, rfl⟩))) deed "/ring" 1 hbound

end Fleet

end Telemetry
