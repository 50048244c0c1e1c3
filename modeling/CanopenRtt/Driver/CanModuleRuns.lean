import CanopenRtt.Driver.CanModule
/-!
# What CAN modules hold, over whole runs

Semaphores, mutexes and the open device of each module are a stack that a failed initialisation
and a disabled module leave empty. The bindings, the RX indications and the RX threads agree.
-/

namespace CanopenRtt.Driver

open Support

namespace CanDevices

/-- The bindings connect exactly the live modules with their devices. -/
structure Wired (s : CanDevices) (live : Nat → Bool) : Prop where
  injective : s.bindings.Injective
  binds : ∀ dev m, s.bindings.Binds dev m ↔ (s.units m).dev = some dev ∧ live m = true
  indicated : ∀ dev, s.indicated dev = true ↔ ∃ m, s.bindings.Binds dev m
  apart : ∀ m other dev, (s.units m).dev = some dev → (s.units other).dev = some dev → m = other

def threads (s : CanDevices) (m : Nat) : Bool := (s.units m).rxThread

/-- A call for one module leaves the devices, the other modules and the resources alone. -/
structure Moved (m : Nat) (s s' : CanDevices) : Prop where
  others : ∀ other, other ≠ m → s'.units other = s.units other
  dev : (s'.units m).dev = (s.units m).dev
  trace : s'.trace = s.trace

section

variable {s s' s'' : CanDevices} {m dev : Nat} {live : Nat → Bool}

theorem Moved.refl : Moved m s s := ⟨fun _ _ => rfl, rfl, rfl⟩

theorem Moved.trans (h : Moved m s s') (h' : Moved m s' s'') : Moved m s s'' :=
  ⟨fun other hne => (h'.others other hne).trans (h.others other hne), h'.dev.trans h.dev,
    h'.trace.trans h.trace⟩

theorem Moved.devs (h : Moved m s s') (other : Nat) :
    (s'.units other).dev = (s.units other).dev := by
  by_cases hsame : other = m
  · rw [hsame, h.dev]
  · rw [h.others other hsame]

@[simp] theorem setUnit_self (unit : CanUnit) : (s.setUnit m unit).units m = unit := by
  simp [setUnit]

theorem moved_setUnit {unit : CanUnit} (hdev : unit.dev = (s.units m).dev) :
    Moved m s (s.setUnit m unit) := by
  refine ⟨fun other hne => ?_, ?_, rfl⟩
  · simp [setUnit, hne]
  · simp [hdev]

/-- Only the devices of the modules matter. -/
theorem Wired.units (h : s.Wired live) (hbindings : s'.bindings = s.bindings)
    (hindicated : s'.indicated = s.indicated)
    (hdevs : ∀ other, (s'.units other).dev = (s.units other).dev) : s'.Wired live := by
  refine ⟨?_, fun dev m => ?_, fun dev => ?_, fun m other dev => ?_⟩
  · rw [hbindings]
    exact h.injective
  · rw [hbindings, hdevs]
    exact h.binds dev m
  · rw [hbindings, hindicated]
    exact h.indicated dev
  · rw [hdevs, hdevs]
    exact h.apart m other dev

theorem Wired.unbind (h : s.Wired live) (hdev : (s.units m).dev = some dev) :
    (s.rxUnbind m).Wired (Function.update live m false) := by
  obtain ⟨hinjective, hremoved⟩ := BindingTable.remove_spec h.injective m
  have hbinds : ∀ d o, (s.rxUnbind m).bindings.Binds d o ↔
      (s.units o).dev = some d ∧ Function.update live m false o = true := by
    intro d o
    change (s.bindings.remove m).Binds d o ↔ _
    rw [hremoved, h.binds]
    by_cases hsame : o = m
    · simp [hsame]
    · simp [hsame]
  refine ⟨hinjective, hbinds, fun d => ?_, h.apart⟩
  change (if (s.units m).dev = some d then false else s.indicated d) = true ↔ _
  by_cases hmine : (s.units m).dev = some d
  · -- The device is this module's, which no longer listens.
    simp only [hmine, if_true, Bool.false_eq_true, false_iff, not_exists]
    intro o hbound
    obtain ⟨hother, hlive⟩ := (hbinds d o).mp hbound
    rw [h.apart o m d hother hmine, Function.update_self] at hlive
    cases hlive
  · rw [if_neg hmine, h.indicated]
    apply exists_congr
    intro o
    rw [hbinds, h.binds]
    have hne : (s.units o).dev = some d → o ≠ m := by
      rintro hother rfl
      exact hmine hother
    constructor
    · rintro ⟨hother, hlive⟩
      exact ⟨hother, by rwa [Function.update_of_ne (hne hother)]⟩
    · rintro ⟨hother, hlive⟩
      rw [Function.update_of_ne (hne hother)] at hlive
      exact ⟨hother, hlive⟩

theorem Wired.bind (h : s.Wired live) (hdev : (s.units m).dev = some dev) (hdead : live m = false)
    (indicates : Bool) :
    ((s.rxBind m dev indicates).2 = true ↔ none ∈ s.bindings ∧ indicates = true) ∧
      (s.rxBind m dev indicates).1.units = s.units ∧
      (s.rxBind m dev indicates).1.trace = s.trace ∧
      (s.rxBind m dev indicates).1.Wired
        (if (s.rxBind m dev indicates).2 then Function.update live m true else live) := by
  have hkey : ∀ present, ¬ s.bindings.Binds dev present := by
    intro present hbound
    obtain ⟨hother, hlive⟩ := (h.binds dev present).mp hbound
    rw [h.apart present m dev hother hdev, hdead] at hlive
    cases hlive
  have howner : ∀ bound, ¬ s.bindings.Binds bound m := by
    intro bound hbound
    rw [h.binds, hdead] at hbound
    exact Bool.false_ne_true hbound.2
  obtain ⟨hroom, hinjective, hadded⟩ := BindingTable.add_spec h.injective hkey howner
  unfold rxBind
  cases hok : (s.bindings.add dev m).2 with
  | false =>
      have hsame : ∀ d o, (s.bindings.add dev m).1.Binds d o ↔ s.bindings.Binds d o := by
        intro d o
        simp [hadded, hok]
      refine ⟨by simp [← hroom, hok], by simp [hok], by simp [hok], ?_⟩
      simp only [hok, Bool.not_false, if_true, Bool.false_eq_true, if_false]
      refine ⟨hinjective, fun d o => ?_, fun d => ?_, h.apart⟩
      · rw [hsame]
        exact h.binds d o
      · simp only [hsame]
        exact h.indicated d
  | true =>
      have hmine : ∀ d o, (s.bindings.add dev m).1.Binds d o ↔
          s.bindings.Binds d o ∨ (d = dev ∧ o = m) := by
        intro d o
        simp [hadded, hok]
      cases indicates with
      | false =>
          obtain ⟨hinjective, hremoved⟩ := BindingTable.remove_spec hinjective m
          have hsame : ∀ d o, ((s.bindings.add dev m).1.remove m).Binds d o ↔
              s.bindings.Binds d o := by
            intro d o
            rw [hremoved, hmine]
            constructor
            · rintro ⟨hold | ⟨-, hown⟩, hne⟩
              · exact hold
              · exact absurd hown hne
            · rintro hold
              refine ⟨Or.inl hold, ?_⟩
              rintro rfl
              exact howner d hold
          refine ⟨by simp [hok], by simp [hok], by simp [hok], ?_⟩
          simp only [hok, Bool.not_true, Bool.false_eq_true, if_false, Bool.not_false, if_true]
          refine ⟨hinjective, fun d o => ?_, fun d => ?_, h.apart⟩
          · rw [hsame]
            exact h.binds d o
          · simp only [hsame]
            exact h.indicated d
      | true =>
          refine ⟨by simp [← hroom, hok], by simp [hok], by simp [hok], ?_⟩
          simp only [hok, Bool.not_true, Bool.false_eq_true, if_false, if_true]
          refine ⟨hinjective, fun d o => ?_, fun d => ?_, h.apart⟩
          · dsimp only
            rw [hmine, h.binds]
            by_cases hsame : o = m
            · subst hsame
              simp [hdead, hdev, eq_comm]
            · simp [hsame]
          · dsimp only
            simp only [hmine]
            by_cases hsame : d = dev
            · simp [hsame]
            · simp [hsame, h.indicated]

/-- The thread of the module is as `live` says, and a running one has not been told to stop. -/
theorem rxStart_spec (h : s.Wired s.threads) (hdev : (s.units m).dev = some dev)
    (hrunning : (s.units m).rxThread = true → (s.units m).rxStop = false)
    (answers : NormalAnswers) :
    Moved m s (s.rxStart m dev answers).1 ∧
      (s.rxStart m dev answers).1.Wired (s.rxStart m dev answers).1.threads ∧
      (((s.rxStart m dev answers).1.units m).rxThread = (s.rxStart m dev answers).2) ∧
      (((s.rxStart m dev answers).1.units m).rxThread = true →
        ((s.rxStart m dev answers).1.units m).rxStop = false) ∧
      ((s.rxStart m dev answers).1.units m).canNormal = (s.units m).canNormal ∧
      ((s.rxStart m dev answers).2 = true ↔ (s.units m).rxThread = true ∨
        (none ∈ s.bindings ∧ answers.rxIndicate = true ∧ answers.create = true ∧
          answers.startup = true)) := by
  unfold rxStart
  cases hthread : (s.units m).rxThread with
  | true =>
      simp only [if_true, true_or]
      exact ⟨.refl, h, hthread, fun _ => hrunning hthread, trivial, trivial⟩
  | false =>
      -- The thread is not there: the device is bound first, and unbound if the thread fails.
      have hclear := @moved_setUnit s m { s.units m with rxStop := false } rfl
      have hcleared : (s.setUnit m { s.units m with rxStop := false }).Wired s.threads :=
        h.units rfl rfl hclear.devs
      obtain ⟨hbound, hunits, htrace, hwired⟩ :=
        hcleared.bind (hclear.dev.trans hdev) hthread answers.rxIndicate
      simp only [Bool.false_eq_true, if_false, false_or]
      generalize (s.setUnit m { s.units m with rxStop := false }).rxBind m dev
        answers.rxIndicate = result at hbound hunits htrace hwired ⊢
      obtain ⟨b, bound⟩ := result
      dsimp only at hbound hunits htrace hwired ⊢
      have hmoved : Moved m s b :=
        ⟨fun other hne => (congrFun hunits other).trans (hclear.others other hne),
          (congrArg CanUnit.dev (congrFun hunits m)).trans hclear.dev, htrace⟩
      have hmine : b.units m = { s.units m with rxStop := false } :=
        (congrFun hunits m).trans (setUnit_self _)
      have hthreads : b.threads = s.threads := by
        funext other
        by_cases hsame : other = m
        · simp [threads, hsame, hmine]
        · simp [threads, hmoved.others other hsame]
      have hunbound : bound = true → (b.rxUnbind m).Wired (b.rxUnbind m).threads := by
        rintro rfl
        have hundone := hwired.unbind (hmoved.dev.trans hdev)
        rw [if_pos rfl, Function.update_idem] at hundone
        rw [show (b.rxUnbind m).threads = Function.update s.threads m false from ?_]
        · exact hundone
        · change b.threads = _
          rw [hthreads]
          exact (Function.update_eq_self_iff.mpr hthread.symm).symm
      cases bound with
      | false =>
          have hno : ¬ (none ∈ s.bindings ∧ answers.rxIndicate = true) := by
            intro hyes
            exact Bool.false_ne_true (hbound.mpr hyes)
          simp only [Bool.not_false, if_true, Bool.false_eq_true, false_iff]
          refine ⟨hmoved, by rw [hthreads]; exact hwired, by rw [hmine, hthread], ?_, by rw [hmine],
            fun hyes => hno ⟨hyes.1, hyes.2.1⟩⟩
          rw [hmine, hthread]
          exact fun hfalse => absurd hfalse Bool.false_ne_true
      | true =>
          obtain ⟨hroom, hindicates⟩ : none ∈ s.bindings ∧ answers.rxIndicate = true :=
            hbound.mp rfl
          have hgone : Moved m s (b.rxUnbind m) := ⟨hmoved.others, hmoved.dev, hmoved.trace⟩
          have hmine' : (b.rxUnbind m).units m = { s.units m with rxStop := false } := hmine
          have hdead : ((b.rxUnbind m).units m).rxThread = false := by rw [hmine', hthread]
          have hstop : ((b.rxUnbind m).units m).rxThread = true →
              ((b.rxUnbind m).units m).rxStop = false := by
            rw [hdead]
            exact nofun
          have hnormal : ((b.rxUnbind m).units m).canNormal = (s.units m).canNormal := by
            rw [hmine']
          cases hcreate : answers.create with
          | false =>
              simp only [Bool.not_true, Bool.false_eq_true, if_false, Bool.not_false, if_true,
                false_and, and_false]
              exact ⟨hgone, hunbound rfl, hdead, hstop, hnormal, trivial⟩
          | true =>
              cases hstartup : answers.startup with
              | false =>
                  simp only [Bool.not_true, Bool.false_eq_true, if_false, Bool.not_false, if_true,
                    and_false]
                  exact ⟨hgone, hunbound rfl, hdead, hstop, hnormal, trivial⟩
              | true =>
                  simp only [Bool.not_true, Bool.false_eq_true, if_false, hroom, hindicates,
                    and_self, setUnit_self]
                  have hstarted := @moved_setUnit b m { b.units m with rxThread := true } rfl
                  refine ⟨hmoved.trans hstarted, ?_, trivial, ?_, ?_, trivial⟩
                  · rw [if_pos rfl] at hwired
                    have hlive : (b.setUnit m { b.units m with rxThread := true }).Wired
                        (Function.update s.threads m true) :=
                      hwired.units rfl rfl hstarted.devs
                    rw [show (b.setUnit m { b.units m with rxThread := true }).threads =
                      Function.update s.threads m true from ?_]
                    · exact hlive
                    · funext other
                      by_cases hsame : other = m
                      · simp [threads, hsame]
                      · rw [Function.update_of_ne hsame, ← hthreads]
                        simp [threads, setUnit, hsame]
                  · rw [hmine]
                    exact fun _ => rfl
                  · rw [hmine]

theorem rxStop_spec (h : s.Wired s.threads) (hdev : (s.units m).dev = some dev) :
    Moved m s (s.rxStop m) ∧ (s.rxStop m).Wired (s.rxStop m).threads ∧
      ((s.rxStop m).units m).rxThread = false ∧
      ((s.rxStop m).units m).canNormal = (s.units m).canNormal := by
  have hmark := @moved_setUnit s m { s.units m with rxStop := true } rfl
  have hmarked : (s.setUnit m { s.units m with rxStop := true }).Wired s.threads :=
    h.units rfl rfl hmark.devs
  have hunbound := hmarked.unbind (hmark.dev.trans hdev)
  have hended := @moved_setUnit ((s.setUnit m { s.units m with rxStop := true }).rxUnbind m) m
    { ((s.setUnit m { s.units m with rxStop := true }).rxUnbind m).units m with
      rxThread := false } rfl
  have hunbind : Moved m s ((s.setUnit m { s.units m with rxStop := true }).rxUnbind m) :=
    ⟨hmark.others, hmark.dev, hmark.trace⟩
  have hmoved : Moved m s (s.rxStop m) := hunbind.trans hended
  have hthreads : (s.rxStop m).threads = Function.update s.threads m false := by
    funext other
    by_cases hsame : other = m
    · simp [threads, rxStop, hsame]
    · simp [threads, hmoved.others other hsame, hsame]
  refine ⟨hmoved, ?_, by simp [rxStop], by simp [rxStop, rxUnbind]⟩
  rw [hthreads]
  exact hunbound.units rfl rfl hended.devs

/-! ## One call -/

/-- The resources of one module, in the order of its calls. -/
def opsOf (s : CanDevices) (m : Nat) : List (StackOp CanResource) :=
  (s.trace.filter fun entry => entry.1 = m).map (·.2)

/-- What a module holds, the last acquired in front. -/
def held (build : CanBuild) (s : CanDevices) (m : Nat) : List CanResource :=
  if (s.units m).dev.isSome then build.acquisitions.reverse else []

/-- The invariant between two calls. -/
structure Inv (build : CanBuild) (s : CanDevices) : Prop where
  wired : s.Wired s.threads
  stack : ∀ m, Accepts stackCheck [] (s.opsOf m) (s.held build m)
  running : ∀ m, (s.units m).rxThread = true → (s.units m).rxStop = false
  alive : ∀ m, (s.units m).rxThread = true → (s.units m).dev.isSome = true
  normal : ∀ m, (s.units m).canNormal = true → (s.units m).rxThread = true

theorem opsOf_log (ops : List (StackOp CanResource)) (other : Nat) :
    (s.log m ops).opsOf other = s.opsOf other ++ if other = m then ops else [] := by
  by_cases hsame : other = m
  · subst hsame
    simp [opsOf, log, List.filter_append, List.filter_map, Function.comp_def]
  · have hne : ¬ m = other := fun heq => hsame heq.symm
    simp [opsOf, log, List.filter_append, List.filter_map, Function.comp_def, hsame, hne]

variable {build : CanBuild}

/-- A call that acquires nothing. -/
theorem Inv.moved (h : s.Inv build) (hmoved : Moved m s s') (hwired : s'.Wired s'.threads)
    (hstop : (s'.units m).rxThread = true → (s'.units m).rxStop = false)
    (hdev : (s'.units m).rxThread = true → (s.units m).dev.isSome = true)
    (hnormal : (s'.units m).canNormal = true → (s'.units m).rxThread = true) : s'.Inv build := by
  refine ⟨hwired, fun other => ?_, fun other => ?_, fun other => ?_, fun other => ?_⟩
  · unfold opsOf held
    rw [hmoved.trace, hmoved.devs]
    exact h.stack other
  all_goals
    by_cases hsame : other = m
    · subst hsame
      first
      | exact hstop
      | exact hnormal
      | exact fun hlive => by rw [hmoved.dev]; exact hdev hlive
    · rw [hmoved.others other hsame]
      first
      | exact h.running other
      | exact h.alive other
      | exact h.normal other

/-- Only `CANnormal` changes. -/
theorem Inv.setNormal (h : s.Inv build) {normal : Bool}
    (hnormal : normal = true → (s.units m).rxThread = true) :
    (s.setUnit m { s.units m with canNormal := normal }).Inv build := by
  have hmoved := @moved_setUnit s m { s.units m with canNormal := normal } rfl
  have hthreads : (s.setUnit m { s.units m with canNormal := normal }).threads = s.threads := by
    funext other
    by_cases hsame : other = m
    · simp [threads, hsame]
    · simp [threads, hmoved.others other hsame]
  refine h.moved hmoved ?_ ?_ ?_ ?_
  · rw [hthreads]
    exact h.wired.units rfl rfl hmoved.devs
  · rw [setUnit_self]
    exact h.running m
  · rw [setUnit_self]
    exact h.alive m
  · rw [setUnit_self]
    exact hnormal

theorem Inv.rxStop (h : s.Inv build) (hdev : (s.units m).dev = some dev)
    (hnormal : (s.units m).canNormal = false) : (s.rxStop m).Inv build := by
  obtain ⟨hmoved, hwired, hended, hkept⟩ := rxStop_spec h.wired hdev
  refine h.moved hmoved hwired ?_ (fun _ => by simp [hdev]) ?_
  · rw [hended]
    exact nofun
  · rw [hkept, hnormal]
    exact nofun

/-- The normal mode is reached exactly if every step of it succeeds. -/
theorem setNormalMode_spec (h : s.Inv build) (hdev : (s.units m).dev = some dev)
    (answers : NormalAnswers) :
    (s.setNormalMode build m dev answers).Inv build ∧
      (((s.setNormalMode build m dev answers).units m).canNormal = true ↔
        answers.setMode = true ∧ (build.filter = true → answers.filter = true) ∧
          ((s.units m).rxThread = true ∨ (none ∈ s.bindings ∧ answers.rxIndicate = true ∧
            answers.create = true ∧ answers.startup = true)) ∧ answers.start = true) := by
  have hcleared : (s.setUnit m { s.units m with canNormal := false }).Inv build :=
    h.setNormal nofun
  have hdevCleared : ((s.setUnit m { s.units m with canNormal := false }).units m).dev =
      some dev := by simp [hdev]
  obtain ⟨hmoved, hwired, hlive, hstop, hkept, hstarted⟩ :=
    rxStart_spec hcleared.wired hdevCleared (hcleared.running m) answers
  unfold CanDevices.setNormalMode
  cases hmode : answers.setMode with
  | false =>
      simp only [Bool.not_false, if_true, Bool.false_eq_true, false_and, iff_false]
      exact ⟨hcleared, by simp⟩
  | true =>
      cases hfilter : build.filter && !answers.filter with
      | true =>
          rw [Bool.and_eq_true, Bool.not_eq_true'] at hfilter
          simp only [Bool.not_true, Bool.false_eq_true, if_false, hfilter, if_true, forall_const,
            false_and, and_false, iff_false]
          exact ⟨hcleared, by simp⟩
      | false =>
          have hpassed : build.filter = true → answers.filter = true := by
            intro hset
            simpa [hset] using hfilter
          simp only [Bool.not_true, Bool.false_eq_true, if_false, true_and]
          rw [setUnit_self] at hkept hstarted
          have hgoes : ((s.units m).rxThread = true ∨ (none ∈ s.bindings ∧
              answers.rxIndicate = true ∧ answers.create = true ∧ answers.startup = true)) ↔
              ((s.setUnit m { s.units m with canNormal := false }).rxStart m dev answers).2 =
                true := hstarted.symm
          rw [hgoes]
          generalize (s.setUnit m { s.units m with canNormal := false }).rxStart m dev answers =
            result at hmoved hwired hlive hstop hkept ⊢
          obtain ⟨r, started⟩ := result
          dsimp only at hmoved hwired hlive hstop hkept ⊢
          have hr : r.Inv build := by
            refine hcleared.moved hmoved hwired hstop (fun _ => by simp [hdev]) ?_
            rw [hkept]
            exact nofun
          have hdevR : (r.units m).dev = some dev := hmoved.dev.trans hdevCleared
          cases started with
          | false =>
              simp only [Bool.not_false, if_true, Bool.false_eq_true, false_and, and_false,
                iff_false]
              exact ⟨hr, by rw [hkept]; exact Bool.false_ne_true⟩
          | true =>
              cases hdevice : answers.start with
              | false =>
                  simp only [Bool.not_true, Bool.false_eq_true, if_false, Bool.not_false, if_true,
                    and_false, iff_false]
                  obtain ⟨-, -, -, hstopped⟩ := rxStop_spec hr.wired hdevR
                  exact ⟨hr.rxStop hdevR hkept, by rw [hstopped, hkept]; exact Bool.false_ne_true⟩
              | true =>
                  simp only [Bool.not_true, Bool.false_eq_true, if_false, setUnit_self, and_self,
                    and_true, true_iff]
                  exact ⟨hr.setNormal fun _ => hlive, hpassed⟩

/-- A module without an RX thread gets or gives back its device. -/
theorem Inv.replace (h : s.Inv build) (hdead : (s.units m).rxThread = false) {unit : CanUnit}
    {ops : List (StackOp CanResource)} (hthread : unit.rxThread = false)
    (hnormal : unit.canNormal = false)
    (hfresh : ∀ dev, unit.dev = some dev → ∀ other, other ≠ m → (s.units other).dev ≠ some dev)
    (hops : Accepts stackCheck (s.held build m) ops
      (if unit.dev.isSome then build.acquisitions.reverse else [])) :
    ((s.setUnit m unit).log m ops).Inv build := by
  have hunits : ∀ other, other ≠ m →
      ((s.setUnit m unit).log m ops).units other = s.units other := by
    intro other hne
    simp [log, setUnit, hne]
  have hself : ((s.setUnit m unit).log m ops).units m = unit := by
    simp [log, setUnit]
  refine ⟨⟨h.wired.injective, fun dev other => ?_, h.wired.indicated, fun a b dev ha hb => ?_⟩,
    fun other => ?_, fun other => ?_, fun other => ?_, fun other => ?_⟩
  · change s.bindings.Binds dev other ↔ _
    rw [h.wired.binds]
    unfold threads
    by_cases hsame : other = m
    · subst hsame
      rw [hself, hthread, hdead]
      simp
    · rw [hunits other hsame]
  · by_cases hsame : a = m
    · subst hsame
      rw [hself] at ha
      by_contra hne
      rw [hunits b (Ne.symm hne)] at hb
      exact hfresh dev ha b (Ne.symm hne) hb
    · rw [hunits a hsame] at ha
      by_cases hother : b = m
      · subst hother
        rw [hself] at hb
        exact absurd ha (hfresh dev hb a hsame)
      · rw [hunits b hother] at hb
        exact h.wired.apart a b dev ha hb
  · unfold held
    rw [opsOf_log]
    by_cases hsame : other = m
    · subst hsame
      rw [hself, if_pos rfl]
      exact (h.stack other).append hops
    · rw [hunits other hsame, if_neg hsame, List.append_nil]
      exact h.stack other
  all_goals
    by_cases hsame : other = m
    · subst hsame
      simp [hself, hthread, hnormal]
    · rw [hunits other hsame]
      first
      | exact h.running other
      | exact h.alive other
      | exact h.normal other

theorem setUnit_again (unit last : CanUnit) (ops more : List (StackOp CanResource)) :
    (((s.setUnit m unit).log m ops).setUnit m last).log m more =
      (s.setUnit m last).log m (ops ++ more) := by
  simp [setUnit, log, Function.update_idem]

/-- An initialisation that is undone leaves the stack as it was. -/
theorem Inv.unwound (h : s.Inv build) (hdead : (s.units m).rxThread = false)
    (hnothing : s.held build m = []) {acquired : List CanResource} (unit : CanUnit)
    (hacquired : acquired.Nodup) :
    ((((s.setUnit m unit).log m (acquired.map .acquire)).setUnit m {}).log m
      (acquired.reverse.map .release)).Inv build := by
  rw [setUnit_again]
  apply h.replace hdead rfl rfl fun _ hsome => by cases hsome
  rw [hnothing]
  exact accepts_unwound hacquired (by simp)

theorem Inv.canModuleInit (h : s.Inv build) (hdev : (s.units m).dev = none)
    (hfree : ∀ other, (s.units other).dev ≠ some dev) (answers : CanInitAnswers) :
    (s.canModuleInit build m dev answers).1.Inv build := by
  have hdead : (s.units m).rxThread = false := by
    by_contra hlive
    simpa [hdev] using h.alive m (eq_true_of_ne_false hlive)
  have hnothing : s.held build m = [] := by simp [held, hdev]
  unfold CanDevices.canModuleInit
  cases hfound : answers.found with
  | false => simpa using h
  | true =>
      have hnodup := acquisitions_nodup build
      rcases acquireUntil_spec answers.fails hnodup with hall | ⟨resource, hmem, hsome⟩
      · rw [hall]
        cases hbaud : answers.setBaud with
        | false =>
            simp only [Bool.not_true, Bool.false_eq_true, if_false, Bool.not_false, if_true,
              releases_deviceOpen]
            exact h.unwound hdead hnothing _ hnodup
        | true =>
            simp only [Bool.not_true, Bool.false_eq_true, if_false]
            apply h.replace hdead rfl rfl
            · intro taken htaken other _
              cases htaken
              exact hfree other
            · rw [hnothing]
              simpa using accepts_acquire hnodup fun _ _ => List.not_mem_nil
      · rw [hsome]
        simp only [Bool.not_true, Bool.false_eq_true, if_false, releases_jump build resource hmem]
        exact h.unwound hdead hnothing _ (hnodup.sublist (List.takeWhile_sublist _))

theorem Inv.canModuleDisable (h : s.Inv build) : (s.canModuleDisable build m).Inv build := by
  have hcleared : (s.setUnit m { s.units m with canNormal := false }).Inv build :=
    h.setNormal nofun
  have hoff : ((s.setUnit m { s.units m with canNormal := false }).units m).canNormal = false := by
    simp
  unfold CanDevices.canModuleDisable
  dsimp only
  generalize s.setUnit m { s.units m with canNormal := false } = c at hcleared hoff ⊢
  cases hdev : (c.units m).dev with
  | none => exact hcleared
  | some dev =>
      obtain ⟨hmoved, -, hended, hkept⟩ := rxStop_spec hcleared.wired hdev
      have hheld : held build (c.rxStop m) m = build.acquisitions.reverse := by
        unfold held
        rw [hmoved.dev, hdev]
        rfl
      change Inv build (((c.rxStop m).setUnit m { (c.rxStop m).units m with dev := none }).log m
        (build.detachments.map .release))
      refine (hcleared.rxStop hdev hoff).replace hended ?_ ?_ ?_ ?_
      · exact hended
      · exact hkept.trans hoff
      · exact fun _ hsome => by cases hsome
      · rw [hheld, detachments_eq]
        simpa using @accepts_release _ _ [] build.acquisitions.reverse

theorem start_inv (build : CanBuild) : (start build).Inv build := by
  refine ⟨⟨BindingTable.injective_replicate _, fun dev m => ?_, fun dev => ?_, nofun⟩,
    fun m => ?_, nofun, nofun, nofun⟩
  · simp [start, threads, BindingTable.not_binds_replicate]
  · simp [start, BindingTable.not_binds_replicate]
  · exact accepts_nil.mpr rfl

theorem Inv.step (h : s.Inv build) {call : CanCall} (hproper : call.Proper s) :
    (s.step build call).Inv build := by
  cases call with
  | init m dev answers => exact h.canModuleInit hproper.1 hproper.2 answers
  | setNormalMode m answers =>
      obtain ⟨dev, hdev⟩ := Option.isSome_iff_exists.mp hproper
      simp only [CanDevices.step, hdev, Option.elim_some]
      exact (setNormalMode_spec h hdev answers).1
  | setBitrate m supported setBaud answers =>
      simp only [CanDevices.step, CanDevices.setBitrate]
      cases hdev : (s.units m).dev with
      | none => exact h
      | some dev =>
          have hcleared : (s.setUnit m { s.units m with canNormal := false }).Inv build :=
            h.setNormal nofun
          cases supported with
          | false => simpa using h
          | true =>
              cases setBaud with
              | false => simpa [hdev] using hcleared
              | true =>
                  have hdevCleared : ((s.setUnit m { s.units m with canNormal := false }).units
                      m).dev = some dev := by simp [hdev]
                  simpa [hdev] using (setNormalMode_spec hcleared hdevCleared answers).1
  | disable m => exact h.canModuleDisable

/-- The law between two calls. -/
structure Law (build : CanBuild) (s : CanDevices) : Prop where
  /-- Nothing is acquired twice, everything is released once and in reverse order, and a module
  holds all of it or nothing. -/
  stack : ∀ m, Accepts stackCheck [] (s.opsOf m) (s.held build m)
  /-- An indication reaches the module whose RX thread reads the device. -/
  indication : ∀ dev m, (s.indicated dev = true ∧ s.rxIndicate dev = some m) ↔
    (s.units m).dev = some dev ∧ (s.units m).rxThread = true
  normal : ∀ m, (s.units m).canNormal = true →
    (s.units m).dev.isSome = true ∧ (s.units m).rxThread = true
  raises : ∀ m dev answers, (s.units m).dev = some dev →
    (((s.setNormalMode build m dev answers).units m).canNormal = true ↔
      answers.setMode = true ∧ (build.filter = true → answers.filter = true) ∧
        ((s.units m).rxThread = true ∨ (none ∈ s.bindings ∧ answers.rxIndicate = true ∧
          answers.create = true ∧ answers.startup = true)) ∧ answers.start = true)

theorem Inv.law (h : s.Inv build) : s.Law build := by
  refine ⟨h.stack, fun dev m => ?_, fun m hnormal => ?_, fun m dev answers hdev =>
    (setNormalMode_spec h hdev answers).2⟩
  · constructor
    · rintro ⟨-, hfound⟩
      obtain ⟨hfind, -⟩ := Option.filter_eq_some_iff.mp hfound
      exact (h.wired.binds dev m).mp ((BindingTable.find_eq_some_iff h.wired.injective).mp hfind)
    · rintro ⟨hdev, hthread⟩
      have hbinds := (h.wired.binds dev m).mpr ⟨hdev, hthread⟩
      refine ⟨(h.wired.indicated dev).mpr ⟨m, hbinds⟩, ?_⟩
      apply Option.filter_eq_some_iff.mpr
      exact ⟨(BindingTable.find_eq_some_iff h.wired.injective).mpr hbinds,
        by simp [h.running m hthread]⟩
  · have hthread := h.normal m hnormal
    exact ⟨h.alive m hthread, hthread⟩

end

/-- Any number of modules keep to the law in every run of their calls. -/
theorem resources_of_run (build : CanBuild) (calls : List CanCall)
    (hproper : EveryStep (step build) (fun s call => call.Proper s) (start build) calls) :
    (run (step build) (start build) calls).Law build :=
  (run_invariant_of_everyStep (fun _ _ hinv hcall => hinv.step hcall) (start_inv build)
    hproper).law

/-- Two modules; the second one loses its mutex first, and then its RX thread. -/
def twoModules : List CanCall :=
  [.init 0 7 {}, .setNormalMode 0 {}, .init 1 8 { fails := (· = .emcyMutex) }, .init 1 8 {},
    .setNormalMode 1 { startup := false }, .disable 0, .setNormalMode 1 {}]

theorem resources_twoModules :
    (run (step ⟨true, true, 1⟩) (start ⟨true, true, 1⟩) twoModules).Law ⟨true, true, 1⟩ ∧
      ((run (step ⟨true, true, 1⟩) (start ⟨true, true, 1⟩) twoModules).units 1).canNormal =
        true := by
  refine ⟨resources_of_run ⟨true, true, 1⟩ twoModules ?_, by decide +kernel⟩
  refine ⟨⟨rfl, fun _ => nofun⟩, rfl, ⟨rfl, ?_⟩, ⟨rfl, ?_⟩, rfl, trivial, rfl, trivial⟩
  all_goals
    rintro (- | - | other)
    · decide +kernel
    · decide +kernel
    · exact nofun

end CanDevices

end CanopenRtt.Driver
