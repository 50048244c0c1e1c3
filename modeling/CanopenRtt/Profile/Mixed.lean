import CanopenRtt.Lifecycle.BindingOrder
import CanopenRtt.Profile.Registry
/-!
# The ownership validator

`profile/mixed/CO_profile_mixed_RTT.c`: a lifecycle slot that checks the table of a product against
every new dictionary. A slot registered behind it is bound to an accepted dictionary only.
-/

namespace CanopenRtt.Profile

open CanopenRtt.Support CanopenRtt.Lifecycle

/-- The reader of the validator; a dictionary answers for sub-index 0. -/
def readDeviceType (dictionary : Nat → Option (BitVec 32)) (logicalDevice : Nat) :
    Option (BitVec 32) :=
  dictionary (profileDeviceTypeIndex logicalDevice)

/-- `CO_profile_mixed_RTT_config_t`, once the attach has checked it. -/
structure MixedConfig where
  descriptors : List ProfileDescriptor
  supplied : descriptors ≠ []
  fits : descriptors.length ≤ logicalDeviceCountMax

/-- `CO_profile_mixed_RTT_context_t`, with the dictionary that was accepted last. -/
structure MixedContext where
  config : MixedConfig
  registry : ProfileRegistry := {}
  diag : RegistryDiag := ⟨.ok, 0, 0, 0, 0⟩
  dictionary : Nat → Option (BitVec 32) := fun _ => none

namespace MixedContext

def onQuiesced (context : MixedContext) : MixedContext := { context with registry := {} }

def onBind (dictionary : Nat → Option (BitVec 32)) (context : MixedContext) :
    MixedContext × RtErr :=
  let built := registryBuild true context.config.descriptors (readDeviceType dictionary)
  if built.2.result = .ok then
    ({ context with registry := built.1, diag := built.2, dictionary := dictionary }, .ok)
  else ({ context with registry := built.1, diag := built.2 }, .error)

def onDeinit (context : MixedContext) : MixedContext := { context with registry := {} }

/-- What a callback of the lifecycle does to the context of a slot. -/
def call (key : Key) (dictionary : Nat → Option (BitVec 32)) (context : MixedContext) :
    Call → MixedContext
  | .communicationBind slot _ => if slot = key then (context.onBind dictionary).1 else context
  | .communicationQuiesced slot => if slot = key then context.onQuiesced else context
  | .runtimeDeinit slot => if slot = key then context.onDeinit else context
  | _ => context

/-- The context after some callbacks. -/
def after (key : Key) (dictionary : Nat → Option (BitVec 32)) (context : MixedContext)
    (calls : List Call) : MixedContext :=
  run (call key dictionary) context calls

/-- The registry is that of the table, and the table fits the dictionary. -/
structure Owned (context : MixedContext) : Prop where
  publishes : Publishes context.registry context.config.descriptors
  valid : ValidTable (readDeviceType context.dictionary) context.config.descriptors

/-- The context of a validator that is bound or not. -/
structure At (context : MixedContext) (bound : Bool) : Prop where
  owned : bound = true → context.Owned
  clear : bound = false → context.registry = {}

end MixedContext

/-- The callbacks of the table `lifecycleOps`. -/
def lifecycleOps : Hook → Bool
  | .communicationQuiesced | .communicationBind | .runtimeDeinit => true
  | .runtimeInit | .runtimeStart => false

/-- The addresses a validator is registered with. -/
structure Validator (setup : Setup) where
  ops : Nat
  context : Nat
  release : Nat
  table : setup.sets ops = lifecycleOps

def Validator.key {setup : Setup} (validator : Validator setup) : Key :=
  ⟨some validator.ops, some validator.context⟩

/-- The application with one validator; its context exists while its slot is registered. -/
structure MixedSystem where
  observed : Observed := {}
  context : Option MixedContext := none

inductive MixedInput where
  | attach (descriptors : Option (List ProfileDescriptor)) (allocated : Bool)
  /-- A factory may attach the validator too, with `config`. A bind is given `dictionary`. -/
  | operation (operation : Operation) (config : MixedConfig)
      (dictionary : Nat → Option (BitVec 32))

namespace MixedSystem

variable {setup : Setup}

/-- The validator answers its bind callback itself. -/
def resolve (validator : Validator setup) (dictionary : Nat → Option (BitVec 32))
    (system : MixedSystem) : Operation → Operation
  | .bindCommunication present answers =>
      .bindCommunication present (system.context.elim answers fun context =>
        Function.update answers validator.key (context.onBind dictionary).2)
  | operation => operation

/-- The callbacks of an operation. -/
def calls (validator : Validator setup) (dictionary : Nat → Option (BitVec 32))
    (system : MixedSystem) (operation : Operation) : List Call :=
  Observed.newCalls system.observed.host
    (system.observed.host.perform setup (system.resolve validator dictionary operation)).1

def perform (validator : Validator setup) (config : MixedConfig)
    (dictionary : Nat → Option (BitVec 32)) (system : MixedSystem) (operation : Operation) :
    MixedSystem :=
  let observed := system.observed.step setup (system.resolve validator dictionary operation)
  { observed := observed
    context :=
      if validator.key ∈ observed.host.registered.map Slot.key then
        some (system.context.elim { config := config } fun context =>
          context.after validator.key dictionary (system.calls validator dictionary operation))
      else none }

/-- `CO_profileMixedRTTAttach`. -/
def profileMixedRTTAttach (validator : Validator setup)
    (descriptors : Option (List ProfileDescriptor)) (allocated : Bool) (system : MixedSystem) :
    MixedSystem × RtErr :=
  match descriptors with
  | none => (system, .inval)
  | some descriptors =>
      if h : descriptors ≠ [] ∧ descriptors.length ≤ logicalDeviceCountMax then
        if allocated then
          let operation := .registerEx (some validator.ops) (some validator.context)
            (some validator.release)
          (system.perform validator ⟨descriptors, h.1, h.2⟩ (fun _ => none) operation,
            (system.observed.host.perform setup operation).2)
        else (system, .nomem)
      else (system, .inval)

def step (validator : Validator setup) (system : MixedSystem) : MixedInput → MixedSystem
  | .attach descriptors allocated =>
      (system.profileMixedRTTAttach validator descriptors allocated).1
  | .operation operation config dictionary =>
      system.perform validator config dictionary operation

def Permitted (system : MixedSystem) : MixedInput → Prop
  | .attach _ _ => True
  | .operation operation _ _ => system.observed.Permitted operation

/-- What one state promises, also between two callbacks of the next operation. -/
structure Law (validator : Validator setup) (system : MixedSystem) : Prop where
  moment : ∀ {operation dictionary context part}, system.context = some context →
    system.observed.Permitted operation →
    part <+: system.calls validator dictionary operation →
    (context.after validator.key dictionary part).At
      (boundAfter validator.key system.observed.bound part)
  /-- A slot behind the validator is bound to an accepted dictionary only. -/
  nested : ∀ {operation dictionary context part front slot back later},
    system.context = some context → system.observed.Permitted operation →
    system.observed.host.registered = front ++ slot :: back → slot.key = validator.key →
    later ∈ back → setup.Seen later → part <+: system.calls validator dictionary operation →
    boundAfter later.key system.observed.bound part = true →
    (context.after validator.key dictionary part).Owned
  /-- A dictionary that does not fit is refused as a whole. -/
  refused : ∀ {present answers dictionary config context}, system.context = some context →
    system.observed.Permitted (.bindCommunication present answers) →
    ¬ ValidTable (readDeviceType dictionary) context.config.descriptors →
    (system.perform validator config dictionary
      (.bindCommunication present answers)).observed.bound =
      system.observed.bound
  /-- The owners share no object and no PDO. -/
  apart : ∀ {context first second}, system.context = some context →
    context.registry.ownerOf first ≠ 0 → context.registry.ownerOf second ≠ 0 → first ≠ second →
    (∀ {i j}, canonicalIndexValid i = true → canonicalIndexValid j = true →
      profileIndex first i ≠ profileIndex second j) ∧
    ∀ {n m}, 1 ≤ n ∧ n ≤ pdosPerLogicalDevice → 1 ≤ m ∧ m ≤ pdosPerLogicalDevice →
      profilePdoNumber first n ≠ profilePdoNumber second m

/-- The context exists while its slot is registered, and holds the owners while it is bound. -/
structure Inv (validator : Validator setup) (system : MixedSystem) : Prop where
  agrees : system.observed.Agrees setup
  attached : system.context.isSome = true ↔
    validator.key ∈ system.observed.host.registered.map Slot.key
  context : ∀ {context}, system.context = some context → context.At system.observed.bound

end MixedSystem

/-! ## One callback -/

namespace MixedContext

variable {context : MixedContext} {key : Key} {dictionary : Nat → Option (BitVec 32)}

theorem onBind_cases (context : MixedContext) (dictionary : Nat → Option (BitVec 32)) :
    (context.onBind dictionary).2 = .ok ∧ (context.onBind dictionary).1.Owned ∨
      (context.onBind dictionary).2 ≠ .ok ∧ (context.onBind dictionary).1.registry = {} := by
  have hbuilt := registryBuild_cases true context.config.descriptors (readDeviceType dictionary)
  unfold onBind
  generalize registryBuild true context.config.descriptors (readDeviceType dictionary) = built
    at hbuilt
  cases hbuilt with
  | published registry hpublishes hvalid => exact .inl ⟨rfl, hpublishes, hvalid⟩
  | badArgument => exact .inr ⟨nofun, rfl⟩
  | refused front back failing result deviceType hsplit hvalid hrefused =>
      have hresult : (refusal result (failing, front.length) deviceType).result ≠ .ok :=
        hrefused.ne_ok
      dsimp only
      rw [if_neg hresult]
      exact .inr ⟨nofun, rfl⟩

theorem onBind_ok_iff (context : MixedContext) (dictionary : Nat → Option (BitVec 32)) :
    (context.onBind dictionary).2 = .ok ↔
      ValidTable (readDeviceType dictionary) context.config.descriptors := by
  have hbuilt := registryBuild_cases true context.config.descriptors (readDeviceType dictionary)
  rw [← registryBuild_ok_iff (Or.inr rfl)]
  unfold onBind
  generalize registryBuild true context.config.descriptors (readDeviceType dictionary) = built
    at hbuilt ⊢
  have hclean : built.2.result = .ok ↔ built.2 = {} := by
    constructor
    · intro hok
      cases hbuilt with
      | published => rfl
      | badArgument => contradiction
      | refused front back failing result deviceType hsplit hvalid hrefused =>
          exact absurd hok hrefused.ne_ok
    · intro hempty
      rw [hempty]
  rw [← hclean]
  by_cases hok : built.2.result = .ok
  · simp only [hok, if_true]
  · simp only [hok, if_false, reduceCtorEq]

theorem config_call (call : Call) : (context.call key dictionary call).config = context.config := by
  have hbind : (context.onBind dictionary).1.config = context.config := by
    unfold onBind
    dsimp only
    split <;> rfl
  cases call with
  | communicationBind slot ret => exact (apply_ite config ..).trans (by rw [hbind, ite_self])
  | communicationQuiesced slot => exact (apply_ite config ..).trans (ite_self _)
  | runtimeDeinit slot => exact (apply_ite config ..).trans (ite_self _)
  | _ => rfl

theorem config_after (calls : List Call) :
    (context.after key dictionary calls).config = context.config :=
  @run_invariant _ _ (call key dictionary) (fun later => later.config = context.config)
    (fun _ call heq => (config_call call).trans heq) context rfl calls

theorem after_concat (calls : List Call) (call : Call) :
    context.after key dictionary (calls ++ [call]) =
      (context.after key dictionary calls).call key dictionary call :=
  run_concat ..

/-- A callback of the lifecycle, with the answer of the validator to its own bind. -/
theorem At.call {bound : Bool} (h : context.At bound) {call : Call}
    (hanswer : ∀ ret, call = .communicationBind key ret → ret = (context.onBind dictionary).2)
    (hdeinit : call = .runtimeDeinit key → bound = false) :
    (context.call key dictionary call).At (call.binds key bound) := by
  cases call with
  | communicationBind slot ret =>
      rw [binds_bind, MixedContext.call]
      by_cases hkey : slot = key
      · rw [if_pos hkey, if_pos hkey, hanswer ret (by rw [hkey])]
        rcases onBind_cases context dictionary with ⟨hok, howned⟩ | ⟨hret, hclear⟩
        · rw [decide_eq_true hok]
          exact ⟨fun _ => howned, nofun⟩
        · rw [decide_eq_false hret]
          exact ⟨nofun, fun _ => hclear⟩
      · rw [if_neg hkey, if_neg hkey]
        exact h
  | communicationQuiesced slot =>
      rw [binds_quiesced, MixedContext.call]
      by_cases hkey : slot = key
      · rw [if_pos hkey, if_pos hkey]
        exact ⟨nofun, fun _ => rfl⟩
      · rw [if_neg hkey, if_neg hkey]
        exact h
  | runtimeDeinit slot =>
      change (if slot = key then context.onDeinit else context).At bound
      by_cases hkey : slot = key
      · rw [if_pos hkey, hdeinit (by rw [hkey])]
        exact ⟨nofun, fun _ => rfl⟩
      · rw [if_neg hkey]
        exact h
  | _ => exact h

end MixedContext

/-! ## One operation -/

namespace MixedSystem

variable {setup : Setup} {validator : Validator setup} {system : MixedSystem}
  {dictionary : Nat → Option (BitVec 32)} {operation : Operation} {context : MixedContext}

theorem seen_of_key {slot : Slot} (h : slot.key = validator.key) : setup.Seen slot := by
  have hops : slot.ops = some validator.ops := congrArg Key.ops h
  unfold Setup.Seen Setup.has
  rw [hops, Option.any_some, Option.any_some, validator.table]
  exact ⟨rfl, rfl⟩

theorem permitted_resolve (h : system.observed.Permitted operation) :
    system.observed.Permitted (system.resolve validator dictionary operation) := by
  cases operation <;> exact h

/-- The callbacks of an operation, and that it keeps the slots that are bound. -/
theorem callbacks_of_permitted (h : system.Inv validator)
    (hpermitted : system.observed.Permitted operation) :
    Callbacks setup system.observed.host.registered system.observed.bound
        (Observed.bindAnswers (system.resolve validator dictionary operation))
        (system.calls validator dictionary operation)
        (system.observed.step setup (system.resolve validator dictionary operation)).bound :=
  (Observed.callbacks_of_step h.agrees (permitted_resolve hpermitted)).1

theorem answer_eq (hcontext : system.context = some context) {given : Key → RtErr}
    (h : Observed.bindAnswers (system.resolve validator dictionary operation) = some given) :
    given validator.key = (context.onBind dictionary).2 := by
  cases operation with
  | bindCommunication present answers =>
      unfold resolve at h
      rw [hcontext] at h
      rw [← Option.some_inj.mp h]
      exact Function.update_self ..
  | _ => cases h

theorem moment_of_inv (h : system.Inv validator) (hcontext : system.context = some context)
    (hpermitted : system.observed.Permitted operation) {part : List Call}
    (hpart : part <+: system.calls validator dictionary operation) :
    (context.after validator.key dictionary part).At
      (boundAfter validator.key system.observed.bound part) := by
  have hcallbacks := @callbacks_of_permitted _ _ _ dictionary _ h hpermitted
  induction part using List.reverseRecOn with
  | nil => exact h.context hcontext
  | append_singleton part call ih =>
      rw [MixedContext.after_concat, boundAfter_concat]
      apply (ih ((List.prefix_append ..).trans hpart)).call
      · rintro ret rfl
        have hmem : .communicationBind validator.key ret ∈
            system.calls validator dictionary operation := hpart.subset (by simp)
        obtain ⟨given, hgiven, rfl⟩ := hcallbacks.answer hmem
        rw [answer_eq hcontext hgiven]
        unfold MixedContext.onBind
        rw [MixedContext.config_after]
        dsimp only
        split <;> rfl
      · rintro rfl
        obtain ⟨hfree, hruntime⟩ := hcallbacks.deinit_free hpart
        rw [boundAfter_of_runtime _ _ hruntime]
        exact hfree

theorem exists_slot (h : system.Inv validator) (hcontext : system.context = some context) :
    ∃ slot ∈ system.observed.host.registered, slot.key = validator.key := by
  have hmem := h.attached.mp (by rw [hcontext]; rfl)
  exact List.mem_map.mp hmem

theorem bound_of_outcome (h : system.Inv validator) (hcontext : system.context = some context)
    (hpermitted : system.observed.Permitted operation) :
    boundAfter validator.key system.observed.bound (system.calls validator dictionary operation) =
      (system.observed.step setup (system.resolve validator dictionary operation)).bound := by
  obtain ⟨slot, hslot, hkey⟩ := exists_slot h hcontext
  have houtcome := (@callbacks_of_permitted _ _ _ dictionary _ h hpermitted).outcome
    (seen_of_key hkey) (List.mem_map_of_mem hslot)
  rwa [hkey] at houtcome

/-- A slot that was not registered before the operation is not bound after it. -/
theorem free_of_new (h : system.Inv validator) (hnone : system.context = none)
    (hpermitted : system.observed.Permitted operation)
    (hmem : validator.key ∈ (system.observed.step setup
      (system.resolve validator dictionary operation)).host.registered.map Slot.key) :
    (system.observed.step setup (system.resolve validator dictionary operation)).bound = false := by
  rw [← Bool.not_eq_true]
  intro hbound
  obtain ⟨-, hkeys⟩ := Observed.callbacks_of_step h.agrees
    (@permitted_resolve _ validator _ dictionary _ hpermitted)
  have hbefore := h.attached.mpr ?_
  · rw [hnone] at hbefore
    cases hbefore
  · rw [← hkeys hbound]
    have hhost : (system.observed.step setup
        (system.resolve validator dictionary operation)).host =
        (system.observed.host.perform setup
          (system.resolve validator dictionary operation)).1 := by
      cases system.resolve validator dictionary operation <;> rfl
    rwa [← hhost]

theorem perform_inv (h : system.Inv validator) (config : MixedConfig)
    (hpermitted : system.observed.Permitted operation) :
    (system.perform validator config dictionary operation).Inv validator := by
  have hagrees := Observed.step_agrees h.agrees
    (@permitted_resolve _ validator _ dictionary _ hpermitted)
  by_cases hmem : validator.key ∈ (system.observed.step setup
      (system.resolve validator dictionary operation)).host.registered.map Slot.key
  · unfold perform
    dsimp only
    rw [if_pos hmem]
    refine ⟨hagrees, by simp [hmem], fun {later} hlater => ?_⟩
    rw [Option.some_inj] at hlater
    subst hlater
    cases hcontext : system.context with
    | none =>
        have hfree := free_of_new h hcontext hpermitted hmem
        dsimp only at hfree ⊢
        rw [hfree]
        exact ⟨fun htrue => (Bool.false_ne_true htrue).elim, fun _ => rfl⟩
    | some context =>
        have hmoment := @moment_of_inv _ _ _ dictionary _ _ h hcontext hpermitted _
          (List.prefix_refl _)
        rwa [bound_of_outcome h hcontext hpermitted] at hmoment
  · unfold perform
    dsimp only
    rw [if_neg hmem]
    exact ⟨hagrees, by simp [hmem], fun hsome => nomatch hsome⟩

theorem attach_inv (h : system.Inv validator) (descriptors : Option (List ProfileDescriptor))
    (allocated : Bool) :
    (system.profileMixedRTTAttach validator descriptors allocated).1.Inv validator := by
  unfold profileMixedRTTAttach
  cases descriptors with
  | none => exact h
  | some descriptors =>
      dsimp only
      split
      · split
        · exact perform_inv h _ trivial
        · exact h
      · exact h

theorem step_inv {input : MixedInput} (h : system.Inv validator)
    (hpermitted : system.Permitted input) : (system.step validator input).Inv validator := by
  cases input with
  | attach descriptors allocated => exact attach_inv h descriptors allocated
  | operation operation config dictionary => exact perform_inv h config hpermitted

/-! ## What follows -/

theorem nested_of_inv (h : system.Inv validator) (hcontext : system.context = some context)
    (hpermitted : system.observed.Permitted operation) {part : List Call} {front back : List Slot}
    {slot later : Slot} (hsplit : system.observed.host.registered = front ++ slot :: back)
    (hkey : slot.key = validator.key) (hlater : later ∈ back) (hseen : setup.Seen later)
    (hpart : part <+: system.calls validator dictionary operation)
    (hbound : boundAfter later.key system.observed.bound part = true) :
    (context.after validator.key dictionary part).Owned := by
  apply (moment_of_inv h hcontext hpermitted hpart).owned
  have hcallbacks := @callbacks_of_permitted _ _ _ dictionary _ h hpermitted
  have hnodup := h.agrees.valid.nodup
  rw [hsplit] at hcallbacks hnodup
  rw [← hkey]
  exact hcallbacks.nested hnodup (seen_of_key hkey) hseen hlater hpart hbound

theorem refused_of_inv (h : system.Inv validator) (hcontext : system.context = some context)
    {present : Bool} {answers : Key → RtErr} {config : MixedConfig}
    (hpermitted : system.observed.Permitted (.bindCommunication present answers))
    (hinvalid : ¬ ValidTable (readDeviceType dictionary) context.config.descriptors) :
    (system.perform validator config dictionary
      (.bindCommunication present answers)).observed.bound = system.observed.bound := by
  have hcallbacks := @callbacks_of_permitted _ _ _ dictionary _ h hpermitted
  have houtcome := @bound_of_outcome _ _ _ dictionary _ _ h hcontext hpermitted
  change (system.observed.step setup _).bound = _
  cases hbound : system.observed.bound with
  | true =>
      change (system.observed.bound || _) = true
      rw [hbound, Bool.true_or]
  | false =>
      rw [← Bool.not_eq_true, ← houtcome, hbound]
      intro hlast
      obtain ⟨given, hgiven, hok⟩ := hcallbacks.answer (bind_mem_of_boundAfter hlast)
      rw [answer_eq hcontext hgiven] at hok
      exact hinvalid ((MixedContext.onBind_ok_iff context dictionary).mp hok.symm)

theorem valid_of_ownerOf {registry : ProfileRegistry} {logicalDevice : Nat}
    (h : registry.ownerOf logicalDevice ≠ 0) : logicalDeviceValid logicalDevice = true := by
  by_contra hinvalid
  unfold logicalDeviceValid at hinvalid
  rw [decide_eq_true_eq] at hinvalid
  exact h (dif_neg hinvalid)

theorem law_of_inv (h : system.Inv validator) : system.Law validator where
  moment := fun hcontext hpermitted => moment_of_inv h hcontext hpermitted
  nested := fun hcontext hpermitted hsplit hkey hlater hseen =>
    nested_of_inv h hcontext hpermitted hsplit hkey hlater hseen
  refused := fun hcontext hpermitted => refused_of_inv h hcontext hpermitted
  apart := by
    intro context first second _ hfirst hsecond hne
    have hfirst := valid_of_ownerOf hfirst
    have hsecond := valid_of_ownerOf hsecond
    exact ⟨fun hi hj heq => hne (profileIndex_device hfirst hsecond hi hj heq),
      fun hn hm heq => hne (profilePdoNumber_device hfirst hsecond hn hm heq)⟩

/-- At every moment of every run the registry is that of a bound validator or empty, and no slot
behind the validator is bound to a dictionary that does not fit. -/
theorem law_of_permitted (validator : Validator setup) (inputs : List MixedInput)
    (h : EveryStep (step validator) Permitted {} inputs) :
    (run (step validator) {} inputs).Law validator := by
  have hstart : ({} : MixedSystem).Inv validator :=
    ⟨Observed.start_agrees setup, by simp [Host.registered, cells], fun hsome => nomatch hsome⟩
  exact law_of_inv (run_invariant_of_everyStep (fun _ _ hinv => step_inv hinv) hstart h)

/-! ### A dictionary that fits, and one that does not -/

/-- The validator has table 1, an adapter behind it a full table. -/
def productTables : Setup := ⟨4, fun ops => if ops = 1 then lifecycleOps else fun _ => true⟩

def productValidator : Validator productTables := ⟨1, 10, 7, rfl⟩

def productTable : List ProfileDescriptor := [⟨0, 402⟩, ⟨2, 401⟩]

def productConfig : MixedConfig := ⟨productTable, by decide, by decide⟩

/-- Device types at 0x67FF and 0x77FF. -/
def productDictionary (second : BitVec 32) (index : Nat) : Option (BitVec 32) :=
  if index = 0x67FF then some 0x00020192 else if index = 0x77FF then some second else none

def productRun : List MixedInput :=
  [.attach (some productTable) true,
    .operation (.register (some 2) (some 20)) productConfig (fun _ => none),
    .operation (.setStack true) productConfig (fun _ => none),
    .operation (.bindCommunication true fun _ => .ok) productConfig (productDictionary 0x00030191),
    .operation .communicationQuiesced productConfig (fun _ => none),
    .operation (.bindCommunication true fun _ => .ok) productConfig (productDictionary 0x00030192)]

/-- The second bind is refused by the validator, so the adapter behind it is not called again. -/
theorem law_of_productRun :
    (run (step productValidator) {} productRun).Law productValidator ∧
      (run (step productValidator) {} productRun).observed.host.log =
        [.communicationBind ⟨some 1, some 10⟩ .ok, .communicationBind ⟨some 2, some 20⟩ .ok,
          .communicationQuiesced ⟨some 2, some 20⟩, .communicationQuiesced ⟨some 1, some 10⟩,
          .communicationBind ⟨some 1, some 10⟩ .error] ∧
      (run (step productValidator) {} productRun).context.map MixedContext.diag =
        some ⟨.deviceTypeMismatch, 1, 2, 401, 0x00030192⟩ :=
  ⟨law_of_permitted productValidator productRun
      ⟨trivial, trivial, Or.inl rfl, rfl, trivial, rfl, trivial⟩,
    by decide +kernel, by decide +kernel⟩

end MixedSystem

end CanopenRtt.Profile
