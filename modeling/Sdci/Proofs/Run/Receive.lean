import Sdci.Proofs.Run.Calls

/-! # Indications and timers as moves

`Session.Makes` says that a change of a session is one move of its device, which enters into the
trace what the session enters; `Session.Performs` says so of a sequence of moves. Taking an
indication and serving the timers that are due are such changes.

* `Session.makes_poll`: at most one indication, one move.
* `Session.performs_expireTimers`: every timer that is due.
-/

namespace Sdci
set_option autoImplicit false

@[simp] theorem Link.next_fatalError (l : Link) : l.next .fatalError = .fault := by cases l <;> rfl

namespace Session

open Device

variable {σ : Type}

def Makes (p : Phase) (s t : Session σ) : Prop :=
  ∃ es, t.env.trace.bare = es ++ s.env.trace.bare ∧ Move p s.device es t.device

theorem Makes.of_move {p : Phase} {s t : Session σ} {es : Trace} {d : Device}
    (h : Move p s.device es d) (device : t.device = d)
    (trace : t.env.trace.bare = es ++ s.env.trace.bare) : Makes p s t :=
  ⟨es, trace, by rw [device]; exact h⟩

def Performs (p : Phase) (s t : Session σ) : Prop :=
  ∃ es, t.env.trace.bare = es ++ s.env.trace.bare ∧ Moves p s.device es t.device

theorem Makes.performs {p : Phase} {s t : Session σ} (h : Makes p s t) : Performs p s t := by
  obtain ⟨es, trace, move⟩ := h
  exact ⟨es, trace, .single move⟩

namespace Performs

theorem refl (p : Phase) (s : Session σ) : Performs p s s := ⟨[], rfl, .refl _⟩

theorem trans {p : Phase} {s t u : Session σ} (h₁ : Performs p s t) (h₂ : Performs p t u) :
    Performs p s u := by
  obtain ⟨es, he, hd⟩ := h₁
  obtain ⟨fs, hf, hd'⟩ := h₂
  exact ⟨fs ++ es, by rw [hf, he, List.append_assoc], hd.trans hd'⟩

theorem run {c : Config} {p : Phase} {s t : Session σ} (h : Performs p s t)
    (run : Run c s.device s.env.trace.bare) : Run c t.device t.env.trace.bare := by
  obtain ⟨es, trace, moves⟩ := h
  rw [trace]
  exact run.moves moves

theorem lastTick {p : Phase} {s t : Session σ} (h : Performs p s t)
    (within : p ≠ .call) : t.device.lastTick = s.device.lastTick := by
  obtain ⟨es, -, moves⟩ := h
  exact moves.lastTick within

end Performs

theorem device_startTimer (s : Session σ) (k : Timer) (duration : UInt32) (now : Nat) :
    (s.startTimer k duration now).device =
      { s.device with line := s.device.line.restartTimer k duration now } := rfl

theorem bare_startTimer (s : Session σ) (k : Timer) (duration : UInt32) (now : Nat) :
    (s.startTimer k duration now).env.trace.bare = s.env.trace.bare := Env.bare_note rfl

theorem device_superviseCycles (s : Session σ) (now : Nat) :
    (s.superviseCycles now).device =
      { s.device with
        line :=
          if s.device.config.maxCycleTime = 0 then s.device.line
          else s.device.line.restartTimer .maxCycle s.device.config.maxCycleTime now } := by
  unfold superviseCycles
  split <;> rfl

theorem bare_superviseCycles (s : Session σ) (now : Nat) :
    (s.superviseCycles now).env.trace.bare = s.env.trace.bare := by
  unfold superviseCycles
  split
  · rfl
  · exact Env.bare_note rfl

theorem bare_receiveControl (s : Session σ) (received : Option Control) :
    (s.receiveControl received).device =
        { s.device with
          images := { s.device.images with control := received.or s.device.images.control } } ∧
      (s.receiveControl received).env.trace.bare = s.env.trace.bare := by
  cases received with
  | none => exact ⟨rfl, rfl⟩
  | some code =>
    refine ⟨rfl, ?_⟩
    unfold receiveControl onImages Images.receiveControl
    dsimp only
    split
    · split
      · rfl
      · exact Env.bare_note rfl
    · rfl

theorem device_succeed (s : Session σ) (e : Env σ) {mode : Mode}
    (link : s.device.link = .transferring mode) (output : Octets) :
    ((stopTimer ⟨s.device, e⟩ .transfer).succeed output s.device.lastTick).device =
      s.device.succeeded mode output := by
  unfold succeed
  dsimp only
  rw [device_update, device_advance]
  by_cases off : s.device.config.maxCycleTime = 0 <;>
    simp [stopTimer, Device.succeeded, Device.supervise, Line.stopTimer, Line.restartTimer, link,
      Link.next, off]

theorem bare_succeed (s : Session σ) (output : Octets) (now : Nat) :
    (s.succeed output now).env.trace.bare =
      .linkEvent s.device.link .transferSucceeded :: s.env.trace.bare :=
  bare_advance _ _

variable [Application σ]

/-! ## Failures -/

theorem device_enterFault (s : Session σ) (cause : Failure) :
    (s.enterFault cause).device = s.device.faulted := by
  simp [enterFault, device_advance, faulted, Slots.drain_eq]
  rfl

theorem bare_enterFault (s : Session σ) (cause : Failure) :
    ∃ es, Confirms (.error cause) s.device.slots.openKinds es ∧
      (s.enterFault cause).env.trace.bare =
        es ++ .linkEvent s.device.link .fatalError :: s.env.trace.bare := by
  have note : (s.note (.enteringFault s.device.link cause)).env.trace.bare = s.env.trace.bare :=
    Env.bare_note rfl
  obtain ⟨es, hes, h⟩ := bare_failWhere ((((s.note (.enteringFault s.device.link cause)).update
    Device.abandon).update fun d => { d with tally := d.tally.faulted }).advance .fatalError)
    cause fun _ => true
  rw [bare_advance, env_update, env_update, note] at h
  rw [device_advance] at hes
  exact ⟨es, hes, h⟩

theorem makes_enterFault {p : Phase} {s u : Session σ} {cause : Failure} {e : Event}
    (fatal : Fatal s.device p cause e) (device : u.device.faulted = s.device.faulted)
    (slots : u.device.slots = s.device.slots) (link : u.device.link = s.device.link)
    (trace : u.env.trace.bare = e :: s.env.trace.bare) : Makes p s (u.enterFault cause) := by
  obtain ⟨es, hes, h⟩ := u.bare_enterFault cause
  rw [slots] at hes
  rw [link, trace] at h
  exact .of_move (.fault fatal hes) (by rw [device_enterFault, device]) (by rw [h]; simp)

/-- What `recover` does before it decides whether to try again. -/
theorem device_failExchange {s u : Session σ} {mode : Mode} (cause : Failure)
    (device : u.device = { s.device with line := s.device.line.stopTimer .transfer })
    (link : s.device.link = .transferring mode) :
    ((u.failExchange cause).update fun d => { d with retries := d.retries.fail }).device =
      s.device.failed mode cause := by
  simp [failExchange, device_advance, device, link, Link.next, failed]

theorem bare_failExchange (s : Session σ) (cause : Failure) :
    (s.failExchange cause).env.trace.bare =
      .cycled :: .linkEvent s.device.link .recoverableError :: s.env.trace.bare := by
  unfold failExchange
  dsimp only
  rw [Env.bare_cycle, bare_advance]
  rfl

/-- The frame is kept for another attempt if one is left, and otherwise the link faults. -/
theorem recover_cases {s u : Session σ} {mode : Mode} (cause : Failure)
    (device : u.device = { s.device with line := s.device.line.stopTimer .transfer })
    (link : s.device.link = .transferring mode) :
    (s.device.retries.left = true ∧ (u.recover cause).device = s.device.retried mode cause ∧
      (u.recover cause).env.trace.bare =
        .cycled :: .linkEvent s.device.link .recoverableError :: u.env.trace.bare) ∨
    (s.device.retries.left = false ∧
      (u.recover cause).device = (s.device.failed mode cause).faulted ∧
      ∃ es, Confirms (.error cause) s.device.slots.openKinds es ∧
        (u.recover cause).env.trace.bare =
          es ++ .linkEvent (.active mode) .fatalError :: .cycled ::
            .linkEvent s.device.link .recoverableError :: u.env.trace.bare) := by
  have failed := device_failExchange cause device link
  have bare := u.bare_failExchange cause
  rw [show u.device.link = s.device.link by rw [device]] at bare
  have retries : u.device.retries = s.device.retries := by rw [device]
  unfold recover
  dsimp only
  rw [retries]
  cases left : s.device.retries.left with
  | true =>
    refine .inl ⟨rfl, ?_, ?_⟩
    · change Device.mk .. = _
      rw [failed]
      rfl
    · exact (Env.bare_note rfl).trans bare
  | false =>
    obtain ⟨es, hes, h⟩ := bare_enterFault ((((u.failExchange cause).update
      fun d => { d with retries := d.retries.fail })).note (.retriesExhausted cause)) cause
    rw [device_note, failed] at hes h
    have note : ((((u.failExchange cause).update
        fun d => { d with retries := d.retries.fail })).note
        (.retriesExhausted cause)).env.trace.bare = (u.failExchange cause).env.trace.bare :=
      Env.bare_note rfl
    rw [note, bare] at h
    refine .inr ⟨rfl, ?_, es, hes, ?_⟩
    · rw [if_neg Bool.false_ne_true, device_enterFault, device_note, failed]
    · rw [if_neg Bool.false_ne_true, h]
      rfl

theorem makes_recover {p : Phase} {s u : Session σ} {mode : Mode} {cause : Failure} {e : Event}
    (link : s.device.link = .transferring mode) (mishap : Mishap s.device p cause e)
    (device : u.device = { s.device with line := s.device.line.stopTimer .transfer })
    (trace : u.env.trace.bare = e :: s.env.trace.bare) : Makes p s (u.recover cause) := by
  rcases recover_cases cause device link with
    ⟨left, after, entered⟩ | ⟨left, after, es, failed, entered⟩
  · rw [trace] at entered
    exact .of_move (.retry link mishap left) after entered
  · rw [trace] at entered
    refine .of_move (.exhaust link mishap left failed) after ?_
    rw [entered, List.append_assoc]
    rfl

/-! ## Mode switches -/

theorem device_establish {s u : Session σ} {mode : Mode} (link : s.device.link = .switching mode)
    (device : u.device =
      { s.device with line := { mode, timers := s.device.line.timers.stop .modeSwitch } }) :
    (u.establish mode s.device.lastTick).device = s.device.established mode := by
  have next : u.device.link.next (.modeConfirmed mode) =
      if mode.active then .active mode else .inactive := by
    rw [device]
    simp [link, Link.next]
  unfold establish
  dsimp only
  rw [device_finish]
  split
  · rename_i active
    rw [device_note, device_superviseCycles, device_update, device_advance, next, device]
    by_cases off : s.device.config.maxCycleTime = 0 <;>
      simp [established, active, supervise, off, Line.restartTimer, limits]
  · rename_i passive
    rw [device_failWhere, device_update, device_advance, next, device]
    simp [established, passive, limits]

theorem bare_establish (s : Session σ) (mode : Mode) (now : Nat) :
    ∃ es₁ es₂,
      Confirms (.error .notReady) (if mode.active then []
        else s.device.slots.among (Service.all.filter Service.needsLink)) es₁ ∧
      Confirms (.ok (some [mode.code])) (s.device.slots.among [.setMode]) es₂ ∧
      (s.establish mode now).env.trace.bare =
        es₂ ++ es₁ ++ .linkEvent s.device.link (.modeConfirmed mode) :: s.env.trace.bare := by
  let u := (s.advance (.modeConfirmed mode)).update fun d =>
    { d with
      images := d.images.setLimits (s.device.limits mode).1 (s.device.limits mode).2
      retries := d.retries.reset }
  have slots : u.device.slots = s.device.slots := by rw [device_update, device_advance]
  have entered : u.env.trace.bare = .linkEvent s.device.link (.modeConfirmed mode) ::
      s.env.trace.bare := by rw [env_update, bare_advance]
  unfold establish
  dsimp only
  split
  · obtain ⟨es₂, h₂, h⟩ := bare_finish ((u.superviseCycles now).note (.linkEstablished mode
      (s.device.limits mode).1 (s.device.limits mode).2)) .setMode (.ok (some [mode.code]))
    rw [device_note, device_superviseCycles, slots] at h₂
    rw [note, Env.bare_note rfl, bare_superviseCycles, entered] at h
    exact ⟨[], es₂, .nil, h₂, by rw [List.append_nil]; exact h⟩
  · obtain ⟨es₁, h₁, h⟩ := bare_failWhere u .notReady Service.needsLink
    obtain ⟨es₂, h₂, h'⟩ := bare_finish (u.failWhere .notReady Service.needsLink) .setMode
      (.ok (some [mode.code]))
    rw [slots] at h₁
    rw [device_failWhere, slots, Slots.among_single, Slots.isOpen_takeWhere] at h₂
    rw [h, entered] at h'
    exact ⟨es₁, es₂, h₁, by rw [Slots.among_single]; exact h₂, by
      rw [List.append_assoc]; exact h'⟩

theorem makes_rejectMode {s u : Session σ} {mode target : Mode}
    (link : s.device.link = .switching target)
    (wrong : mode ≠ target ∨ s.device.line.requested ≠ some mode)
    (device : u.device = (s.stopTimer .modeSwitch).device)
    (trace : u.env.trace.bare = .polled (some (.modeSwitched mode)) :: s.env.trace.bare) :
    Makes .poll s (u.rejectMode mode target) := by
  have note : (u.note (.wrongMode mode target)).env.trace.bare = u.env.trace.bare :=
    Env.bare_note rfl
  exact makes_enterFault (.wrongMode link wrong) (by rw [device_note, device]; rfl)
    (by rw [device_note, device]; rfl) (by rw [device_note, device]; rfl) (note.trans trace)

theorem makes_modeSwitched (s : Session σ) {e : Env σ} {mode : Mode}
    (trace : e.trace.bare = .polled (some (.modeSwitched mode)) :: s.env.trace.bare) :
    Makes .poll s (modeSwitched ⟨s.device, e⟩ mode s.device.lastTick) := by
  unfold modeSwitched
  split
  · rename_i target link
    have link : s.device.link = .switching target := link
    dsimp only
    by_cases same : mode = target
    · subst same
      rw [if_pos rfl]
      by_cases asked : s.device.line.requested = some mode
      · have commit : (stopTimer ⟨s.device, e⟩ .modeSwitch).device.line.commit mode
              (stopTimer ⟨s.device, e⟩ .modeSwitch).env =
            (true, { mode, timers := s.device.line.timers.stop .modeSwitch }, e) := by
          simp [Line.commit, stopTimer, update, Line.stopTimer, asked]
        rw [commit, if_pos rfl]
        let u : Session σ := onLine (stopTimer ⟨s.device, e⟩ .modeSwitch) fun _ _ =>
          ({ mode, timers := s.device.line.timers.stop .modeSwitch }, e)
        have entered : u.env.trace.bare =
            .polled (some (.modeSwitched mode)) :: s.env.trace.bare := trace
        obtain ⟨es₁, es₂, h₁, h₂, h⟩ := u.bare_establish mode s.device.lastTick
        rw [entered] at h
        refine .of_move (.establish link asked h₁ h₂) (device_establish link rfl) (h.trans ?_)
        rw [List.append_assoc (es₂ ++ es₁)]
        rfl
      · have commit : (stopTimer ⟨s.device, e⟩ .modeSwitch).device.line.commit mode
              (stopTimer ⟨s.device, e⟩ .modeSwitch).env =
            (false, s.device.line.stopTimer .modeSwitch,
              e.note (.unrequestedMode mode s.device.line.requested)) := by
          simp [Line.commit, stopTimer, update, Line.stopTimer, asked]
        rw [commit, if_neg Bool.false_ne_true]
        exact makes_rejectMode link (.inr asked) rfl ((Env.bare_note rfl).trans trace)
    · rw [if_neg same]
      exact makes_rejectMode link (.inl same) rfl trace
  · rename_i link away
    refine .of_move (.ignore ?_) rfl ((Env.bare_note rfl).trans trace)
    cases h : s.device.link <;> simp_all [Link.ignores]

/-! ## Exchanges -/

/-- The last step of `complete`, whatever the kind. -/
theorem settles_finish {s u : Session σ} {kind : Service} {request : Request}
    (carries : s.device.inFlight.bind InFlight.carries = some kind)
    (ticket : s.device.slots.request? kind = some request) {outcome : Outcome}
    (completes : s.device.completion request = (outcome, { u.device with
      inFlight := s.device.inFlight }))
    (dropped : u.device.inFlight = none) (slots : u.device.slots = s.device.slots)
    (trace : u.env.trace.bare = s.env.trace.bare) :
    ∃ es, Settles s.device es (u.finish kind outcome).device ∧
      (u.finish kind outcome).env.trace.bare = es ++ s.env.trace.bare := by
  have isOpen : u.device.slots.isOpen kind := by
    rw [slots]
    exact Slots.isOpen_of_request? ticket
  obtain ⟨a, h⟩ := bare_finish_open isOpen outcome
  have settles := Settles.carried a carries ticket
  rw [completes] at settles
  refine ⟨[.confirmed kind outcome a], ?_, by rw [h, trace]; rfl⟩
  rw [device_finish, slots]
  simpa [← dropped] using settles

theorem bare_settle (s : Session σ) :
    ∃ es, Settles s.device es s.settle.device ∧
      s.settle.env.trace.bare = es ++ s.env.trace.bare := by
  unfold settle
  split
  · rename_i kind carries
    unfold complete
    split
    · rename_i closed
      exact ⟨[], .stray carries closed, rfl⟩
    · rename_i data ticket
      split
      · rename_i input stored
        have completes := completion_input_ok (d := s.device) stored
        exact settles_finish carries ticket completes rfl rfl rfl
      · rename_i cause unstored
        have completes := completion_input_error (d := s.device) unstored
        exact settles_finish carries ticket completes rfl rfl rfl
    · rename_i code ticket
      exact settles_finish carries ticket rfl rfl rfl (Env.bare_note rfl)
    · rename_i answer ticket
      exact settles_finish carries ticket rfl rfl rfl rfl
    · rename_i request notInput notEvent notAccess ticket
      refine settles_finish carries ticket ?_ rfl rfl rfl
      unfold completion
      split <;> simp_all
  · rename_i cyclic
    exact ⟨[], .cyclic cyclic, rfl⟩

theorem bare_deliver (s : Session σ) {data : Octets}
    (fits : data.length ≤ s.device.images.output.maxLength) :
    ∃ es i, Delivers data s.device.images es i ∧
      (s.deliver data).device = { s.device with images := i } ∧
      (s.deliver data).env.trace.bare = es ++ s.env.trace.bare := by
  unfold deliver
  by_cases empty : data = []
  · subst empty
    exact ⟨[], _, .empty rfl, rfl, rfl⟩
  rw [if_neg (by simpa using empty)]
  by_cases same : s.device.images.output.valid ∧ s.device.images.output.data = data
  · refine ⟨[], _, .unchanged empty same, ?_, ?_⟩ <;> simp [onImages, Images.deliver, same]
  have stored : s.device.images.output.store data =
      .ok { s.device.images.output with data, valid := true } :=
    Image.store_eq_ok_iff.2 ⟨fits, rfl⟩
  have offered := s.env.bare_offerOutput data
  cases accepted : (s.env.offerOutput data).1 with
  | true =>
    rw [accepted] at offered
    refine ⟨[.outputOffered data true], _, .applied empty same, ?_, ?_⟩
    · simp [onImages, Images.deliver, same, accepted, stored]
    · simpa [onImages, Images.deliver, same, accepted, stored] using offered
  | false =>
    rw [accepted] at offered
    refine ⟨[.outputOffered data false], _, .rejected empty same, ?_, ?_⟩
    · simp [onImages, Images.deliver, same, accepted]
    · simp only [onImages, Images.deliver, same, accepted, if_false, Bool.false_eq_true]
      exact (Env.bare_note rfl).trans offered

theorem bare_control (s : Session σ) (received : Option Control) :
    ∃ es i, Signals received s.device.images es i ∧
      ((s.receiveControl received).offerControl).device = { s.device with images := i } ∧
      ((s.receiveControl received).offerControl).env.trace.bare = es ++ s.env.trace.bare := by
  obtain ⟨device, trace⟩ := s.bare_receiveControl received
  generalize s.receiveControl received = u at device trace
  have images : u.device.images =
      { s.device.images with control := received.or s.device.images.control } := by rw [device]
  cases pending : received.or s.device.images.control with
  | none =>
    have none : s.device.images.control = none := (Option.or_eq_none_iff.1 pending).2
    refine ⟨[], _, .quiet pending, ?_, ?_⟩
    · simp [offerControl, onImages, Images.offerControl, pending, device]
      exact congrArg (fun control => { s.device.images with control }) none.symm
    · simp [offerControl, onImages, Images.offerControl, images, pending, trace]
  | some code =>
    have offered := u.env.bare_offerControl code
    rw [trace] at offered
    cases accepted : (u.env.offerControl code).1 with
    | true =>
      rw [accepted] at offered
      refine ⟨[.controlOffered code true], _, .taken pending, ?_, ?_⟩
      · simp [offerControl, onImages, Images.offerControl, pending, device, accepted]
      · simp only [offerControl, onImages, Images.offerControl, images, pending, accepted, if_true]
        exact (Env.bare_note rfl).trans offered
    | false =>
      rw [accepted] at offered
      refine ⟨[.controlOffered code false], _, .refused pending, ?_, ?_⟩
      · simp [offerControl, onImages, Images.offerControl, pending, device, accepted]
      · simp only [offerControl, onImages, Images.offerControl, images, pending, accepted,
          Bool.false_eq_true, if_false]
        exact (Env.bare_note rfl).trans offered

theorem bare_serve (a : Access) (e : Env σ) :
    ∃ event, a.Answered event (a.serve e).1 ∧
      (a.serve e).2.trace.bare = event :: e.trace.bare := by
  have noted : (a.serve e).2.trace.bare = (a.run e).2.trace.bare := by
    unfold Access.serve
    dsimp only
    split
    · rfl
    · exact Env.bare_note rfl
  rw [noted]
  cases a with
  | read index subindex =>
    exact ⟨_, .read index subindex (e.read index subindex).1, e.bare_read index subindex⟩
  | write index subindex value =>
    exact ⟨_, .write index subindex value (e.write index subindex value).1,
      e.bare_write index subindex value⟩

theorem bare_accept (s : Session σ) (now : Nat) (access : Option Access) :
    ∃ es slots, Serves now s.device.slots access es slots ∧
      (s.accept now access).device = { s.device with slots } ∧
      (s.accept now access).env.trace.bare = es ++ s.env.trace.bare := by
  cases access with
  | none => exact ⟨[], _, .none, rfl, rfl⟩
  | some access =>
    obtain ⟨event, answered, h⟩ := bare_serve access s.env
    unfold accept
    dsimp only
    cases isOpen : s.device.slots.isOpen .access with
    | true =>
      rw [if_pos rfl]
      exact ⟨[], _, .busy access isOpen, rfl, Env.bare_note rfl⟩
    | false =>
      rw [if_neg Bool.false_ne_true]
      exact ⟨[event], _, .served isOpen answered, rfl, h⟩

theorem makes_receiveMaster (s : Session σ) {e : Env σ} {mode : Mode} {frame : Octets}
    {master : MasterFrame} (link : s.device.link = .transferring mode)
    (decode : MasterFrame.decode frame = .ok master)
    (trace : e.trace.bare = .polled (some (.transferComplete frame)) :: s.env.trace.bare) :
    Makes .poll s
      (receiveMaster (stopTimer ⟨s.device, e⟩ .transfer) master s.device.lastTick) := by
  unfold receiveMaster
  by_cases long : s.device.images.output.maxLength < master.output.length
  · have check : (stopTimer ⟨s.device, e⟩ .transfer).device.images.output.check
        master.output.length = .error .overflow := if_pos long
    rw [check]
    exact makes_enterFault (.oversized link decode long) rfl rfl rfl
      ((Env.bare_note rfl).trans trace)
  have check : (stopTimer ⟨s.device, e⟩ .transfer).device.images.output.check
      master.output.length = .ok () := if_neg long
  have fits := Nat.not_lt.1 long
  rw [check]
  dsimp only
  let t := (stopTimer ⟨s.device, e⟩ .transfer).succeed master.output s.device.lastTick
  have succeeded : t.device = s.device.succeeded mode master.output :=
    device_succeed s e link master.output
  have succeededTrace : t.env.trace.bare = .linkEvent s.device.link .transferSucceeded ::
      .polled (some (.transferComplete frame)) :: s.env.trace.bare :=
    (bare_succeed _ _ _).trans (congrArg _ trace)
  obtain ⟨es₁, settles, h₁⟩ := t.bare_settle
  rw [succeeded] at settles
  have output : t.settle.device.images.output = s.device.images.output := by rw [settles.eq]; rfl
  obtain ⟨es₂, i₁, delivers, d₂, h₂⟩ := t.settle.bare_deliver (by rw [output]; exact fits)
  obtain ⟨es₃, i₂, signals, d₃, h₃⟩ := (t.settle.deliver master.output).bare_control master.control
  obtain ⟨es₄, slots, serves, d₄, h₄⟩ := (((t.settle.deliver master.output).receiveControl
    master.control).offerControl).bare_accept s.device.lastTick master.access
  rw [d₂] at signals d₃
  rw [d₃] at serves d₄
  refine .of_move (.exchange link decode fits settles delivers signals serves) d₄ ?_
  refine (Env.bare_cycle _).trans ?_
  rw [h₄, h₃, h₂, h₁, succeededTrace]
  simp

theorem transferring_of {l : Link} (h : l.isTransferring = true) :
    ∃ mode, l = .transferring mode := by
  cases l <;> first | exact ⟨_, rfl⟩ | cases h

theorem makes_transferComplete (s : Session σ) {e : Env σ} {frame : Octets}
    (trace : e.trace.bare = .polled (some (.transferComplete frame)) :: s.env.trace.bare) :
    Makes .poll s (transferComplete ⟨s.device, e⟩ frame s.device.lastTick) := by
  unfold transferComplete
  dsimp only
  split
  · rename_i busy
    obtain ⟨mode, link⟩ := transferring_of busy
    have noted := (Env.bare_note (e := e) (m := .received frame) rfl).trans trace
    split
    · rename_i master decode
      exact makes_receiveMaster s link decode noted
    · rename_i cause decode
      split
      · rename_i minor
        exact makes_recover link (.garbled decode minor) rfl noted
      · rename_i major
        exact makes_enterFault (.malformed link decode (by simpa using major)) rfl rfl rfl noted
  · rename_i idle
    refine .of_move (.ignore ?_) rfl ((Env.bare_note rfl).trans trace)
    cases link : s.device.link <;> simp_all [Link.ignores, Link.isTransferring]

theorem makes_transferFailed (s : Session σ) {e : Env σ} {fault : LineFault}
    (trace : e.trace.bare = .polled (some (.transferFailed fault)) :: s.env.trace.bare) :
    Makes .poll s (transferFailed ⟨s.device, e⟩ fault) := by
  unfold transferFailed
  dsimp only
  split
  · rename_i busy
    obtain ⟨mode, link⟩ := transferring_of busy
    exact makes_recover link (.spoilt fault) rfl trace
  · rename_i idle
    refine .of_move (.ignore ?_) rfl ((Env.bare_note rfl).trans trace)
    cases link : s.device.link <;> simp_all [Link.ignores, Link.isTransferring]

/-! ## Phases of a tick -/

theorem makes_poll [Transceiver σ] (s : Session σ) :
    Makes .poll s (s.poll s.device.lastTick) := by
  have trace := s.env.bare_poll
  unfold poll
  dsimp only
  split
  · rename_i indication polled
    rw [polled] at trace
    cases indication with
    | modeSwitched mode => exact makes_modeSwitched s trace
    | transferComplete frame => exact makes_transferComplete s trace
    | transferFailed fault => exact makes_transferFailed s trace
    | hardwareFault => exact makes_enterFault .hardware rfl rfl rfl trace
  · rename_i polled
    rw [polled] at trace
    exact .of_move (.silence s.device) rfl trace

theorem makes_serveTimer {s : Session σ} {timer : Timer}
    (due : s.device.line.timers.due? s.device.lastTick = some timer) :
    Makes .expiry s (s.serveTimer timer) := by
  have trace : ((s.enter (.expired timer)).stopTimer timer).env.trace.bare =
      .expired timer :: s.env.trace.bare := Env.bare_enter rfl
  have fatal (watch : timer.watches s.device.link = true) (other : timer ≠ .transfer)
      {m : Message} (remark : m.isRemark = true) :
      Makes .expiry s
        ((((s.enter (.expired timer)).stopTimer timer).note m).enterFault .timeout) :=
    makes_enterFault (.unsupervised due watch other) rfl rfl rfl
      ((Env.bare_note remark).trans trace)
  unfold serveTimer timeout
  split
  · rename_i target link
    exact fatal (congrArg _ link) nofun rfl
  · rename_i mode link
    exact makes_recover link (.unanswered due) rfl trace
  · rename_i mode link
    exact fatal (congrArg _ link) nofun rfl
  · rename_i mode link
    exact fatal (congrArg _ link) nofun rfl
  · rename_i timer _ _ notSwitching notBusy notActive notCycling
    refine .of_move (.stale s.env.device due ?_) rfl
      ((Trace.bare_cons rfl _).trans (congrArg _ trace))
    change ∀ mode, timer = .modeSwitch → s.device.link = .switching mode → False at notSwitching
    change ∀ mode, timer = .transfer → s.device.link = .transferring mode → False at notBusy
    change ∀ mode, timer = .maxCycle → s.device.link = .active mode → False at notActive
    change ∀ mode, timer = .maxCycle → s.device.link = .transferring mode → False at notCycling
    cases timer <;> cases link : s.device.link <;> simp_all [Timer.watches]

theorem expireTimers_of_quiet {s : Session σ} {now : Nat}
    (quiet : s.device.line.timers.due? now = none) : s.expireTimers now = s := by
  rw [expireTimers]
  split
  · rfl
  · rename_i timer due
    cases quiet.symm.trans due

theorem expireTimers_of_due {s : Session σ} {now : Nat} {timer : Timer}
    (due : s.device.line.timers.due? now = some timer) :
    s.expireTimers now = (s.serveTimer timer).expireTimers now := by
  rw [expireTimers]
  split
  · rename_i quiet
    cases quiet.symm.trans due
  · rename_i other due'
    obtain rfl := Option.some.inj (due.symm.trans due')
    rfl

theorem performs_expireTimers (s : Session σ) (now : Nat) (time : s.device.lastTick = now) :
    Performs .expiry s (s.expireTimers now) := by
  fun_induction expireTimers s now with
  | case1 s due => exact .refl _ s
  | case2 s timer due ih =>
    rw [← time] at due
    have served := (makes_serveTimer due).performs
    refine served.trans (ih ?_)
    rw [served.lastTick nofun, time]

theorem due_expireTimers (s : Session σ) (now : Nat) :
    (s.expireTimers now).device.line.timers.due? now = none := by
  fun_induction expireTimers s now with
  | case1 s due => exact due
  | case2 s timer due ih => exact ih

end Session

end Sdci
