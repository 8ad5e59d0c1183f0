import Sdci.Proofs.Delay.Parts
import Sdci.Proofs.Run.Dispatch

/-! # The same steps a while later

Everything that a device does it does a while later as well, if it is called that while later and
its host gives the same answers.

* `Session.Lags`: the same session a while later.
* `Session.Lags.tick`, `Session.Lags.submit`: a tick a while later, and a request at any time.
-/

namespace Sdci
set_option autoImplicit false

variable {σ τ : Type} {R : σ → τ → Prop} {lag : Nat}

/-! ## Calls of the application -/

section Calls

variable {e : Env σ} {f : Env τ}

theorem Images.receiveControl_matches (i : Images) (h : e.Lags R lag f) (code : Control) :
    Matches (Env.Lags R lag) (i.receiveControl code e) (i.receiveControl code f) := by
  refine ⟨rfl, ?_⟩
  unfold receiveControl
  dsimp only
  split
  · split
    · exact h
    · exact h.note _
  · exact h

variable [Transceiver σ] [Application σ] [Transceiver τ] [Application τ]

theorem Images.deliver_matches (i : Images) (agree : Bisimulation R) (h : e.Lags R lag f)
    (data : Octets) :
    Matches (Env.Lags R lag) (i.deliver data e).2 (i.deliver data f).2 := by
  obtain ⟨same, after⟩ := h.offerOutput agree data
  unfold deliver
  split
  · exact ⟨rfl, h⟩
  · dsimp only
    rw [same]
    split
    · split
      · exact ⟨rfl, after⟩
      · exact ⟨rfl, after.note _⟩
    · exact ⟨rfl, after.note _⟩

theorem Images.offerControl_matches (i : Images) (agree : Bisimulation R) (h : e.Lags R lag f) :
    Matches (Env.Lags R lag) (i.offerControl e).2 (i.offerControl f).2 := by
  unfold offerControl
  cases i.control with
  | none => exact ⟨rfl, h⟩
  | some code =>
    obtain ⟨same, after⟩ := h.offerControl agree code
    dsimp only
    rw [same]
    split
    · exact ⟨rfl, after.note _⟩
    · exact ⟨rfl, after.note _⟩

theorem Access.run_matches (a : Access) (agree : Bisimulation R) (h : e.Lags R lag f) :
    Matches (Env.Lags R lag) (a.run e) (a.run f) := by
  cases a with
  | read index subindex =>
    exact (h.read agree index subindex).map fun answer =>
      answer.bind fun value => if maxValue < value.length then .error .overflow else .ok value
  | write index subindex value => exact (h.write agree index subindex value).map _

theorem Access.serve_matches (a : Access) (agree : Bisimulation R) (h : e.Lags R lag f) :
    Matches (Env.Lags R lag) (a.serve e) (a.serve f) := by
  obtain ⟨same, after⟩ := a.run_matches agree h
  refine ⟨congrArg (Answer.mk a.index a.subindex) same, ?_⟩
  unfold serve
  dsimp only
  rw [same]
  split
  · exact after
  · exact after.note _

end Calls

/-! ## Decisions of a device -/

namespace Device.Lags

variable {d u : Device}

/-- The next frame is the same. -/
theorem choose (h : d.Lags lag u) : u.choose = d.choose := by
  have waiting := h.alike.pending .input
  have service (request : Request) : u.serviceFrame request = d.serviceFrame request := by
    cases h
    rfl
  have cyclic : u.cyclicFrame = d.cyclicFrame := by
    cases h
    rfl
  unfold Device.choose
  rw [h.inFlight, h.images, h.alike.nextOutOfCycle, cyclic]
  cases d.inFlight with
  | some kept => rfl
  | none =>
    cases first : d.slots.pending .input with
    | none =>
      rw [first] at waiting
      rw [Option.map_eq_none_iff.1 waiting]
      cases d.slots.nextOutOfCycle with
      | none => rfl
      | some request => exact congrArg Choice.fresh (service request)
    | some ticket =>
      rw [first] at waiting
      obtain ⟨ticket', second, same⟩ := Option.map_eq_some_iff.1 waiting
      rw [second]
      dsimp only
      rw [same]

theorem launch (h : d.Lags lag u) (out : InFlight) : (d.launch out).Lags lag (u.launch out) := by
  cases h with
  | intro alike =>
    rename_i slots last
    have marked : (d.launch out).slots.Alike ((d.delay lag slots last).launch out).slots := by
      unfold Device.launch
      cases out.carries with
      | none => exact alike
      | some kind => exact alike.mark kind true
    exact .intro marked

theorem ticked (h : d.Lags lag u) (now later : Nat) :
    Lags lag { d with lastTick := now } { u with lastTick := later } := by
  cases h with
  | intro alike => exact .intro alike

/-- Whether a request is taken is the same. -/
theorem admits (h : d.Lags lag u) (r : Request) : u.admits r = d.admits r := by
  unfold Device.admits
  simp only [h.alike.isOpen, h.link, h.limits]

end Device.Lags

namespace Session

/-- The second session is the first one a while later. -/
structure Lags (R : σ → τ → Prop) (lag : Nat) (s : Session σ) (t : Session τ) : Prop where
  device : s.device.Lags lag t.device
  env : s.env.Lags R lag t.env

namespace Lags

variable {s : Session σ} {t : Session τ}

/-! ## Events, timers and the link -/

theorem enter (h : s.Lags R lag t) {event event' : Event} (same : event' = event.delay lag) :
    (s.enter event).Lags R lag (t.enter event') :=
  ⟨h.device, h.env.enter same⟩

theorem note (h : s.Lags R lag t) {m m' : Message} (same : m' = m) :
    (s.note m).Lags R lag (t.note m') := by
  subst same
  exact ⟨h.device, h.env.note m'⟩

/-- What is done to a device without a look at its requests or at the time is done alike. -/
theorem update (h : s.Lags R lag t) (f : Device → Device)
    (natural : ∀ slots last,
      f (s.device.delay lag slots last) = (f s.device).delay lag slots last)
    (slots : (f s.device).slots = s.device.slots) : (s.update f).Lags R lag (t.update f) :=
  ⟨h.device.update natural slots, h.env⟩

theorem onImages (h : s.Lags R lag t) {f : Images → Env σ → Images × Env σ}
    {g : Images → Env τ → Images × Env τ}
    (same : ∀ i, Matches (Env.Lags R lag) (f i s.env) (g i t.env)) :
    (s.onImages f).Lags R lag (t.onImages g) := by
  obtain ⟨images, env⟩ := same s.device.images
  unfold Session.onImages
  rw [h.device.images, images]
  exact ⟨h.device.withImages _, env⟩

theorem advance (h : s.Lags R lag t) (event : Link.Event) :
    (s.advance event).Lags R lag (t.advance event) := by
  unfold Session.advance
  dsimp only
  rw [h.device.link]
  split
  · exact h.enter rfl
  · exact ((h.enter rfl).update _ (fun _ _ => rfl) rfl).note rfl

theorem startTimer (h : s.Lags R lag t) (k : Timer) (duration : UInt32) (now : Nat) :
    (s.startTimer k duration now).Lags R lag (t.startTimer k duration (now + lag)) := by
  refine ⟨h.device.withLine ?_, h.env.note _⟩
  rw [h.device.line]
  exact (Line.delay_restartTimer ..).symm

theorem stopTimer (h : s.Lags R lag t) (k : Timer) :
    (s.stopTimer k).Lags R lag (t.stopTimer k) := by
  refine ⟨h.device.withLine ?_, h.env⟩
  rw [h.device.line, Line.delay_stopTimer]

theorem superviseCycles (h : s.Lags R lag t) (now : Nat) :
    (s.superviseCycles now).Lags R lag (t.superviseCycles (now + lag)) := by
  unfold Session.superviseCycles
  rw [h.device.config]
  split
  · exact h
  · exact h.startTimer _ _ now

theorem commit (h : s.Lags R lag t) (mode : Mode) :
    let first := s.device.line.commit mode s.env
    let second := t.device.line.commit mode t.env
    second.1 = first.1 ∧
      (s.onLine fun _ _ => first.2).Lags R lag (t.onLine fun _ _ => second.2) := by
  have same : t.device.line.requested = s.device.line.requested := by
    rw [h.device.line]
    rfl
  unfold Line.commit
  dsimp only
  rw [same]
  split
  · exact ⟨rfl, h.device.withLine (by rw [h.device.line]; rfl), h.env⟩
  · exact ⟨rfl, h.device.withLine h.device.line, h.env.note _⟩

theorem succeed (h : s.Lags R lag t) (output : Octets) (now : Nat) :
    (s.succeed output now).Lags R lag (t.succeed output (now + lag)) := by
  have reset := h.update (fun d => { d with retries := d.retries.reset }) (fun _ _ => rfl) rfl
  have supervised : (if t.device.config.maxCycleTime = 0 then t.device.line
      else t.device.line.restartTimer .maxCycle t.device.config.maxCycleTime (now + lag)) =
      (if s.device.config.maxCycleTime = 0 then s.device.line
        else s.device.line.restartTimer .maxCycle s.device.config.maxCycleTime now).delay lag := by
    rw [h.device.config, h.device.line]
    split
    · rfl
    · exact (Line.delay_restartTimer ..).symm
  have renewed := reset.device.withLine supervised
  unfold Session.succeed
  refine update (advance ?_ _) _ (fun _ _ => rfl) rfl
  exact ⟨renewed, h.env⟩

theorem receiveControl (h : s.Lags R lag t) (received : Option Control) :
    (s.receiveControl received).Lags R lag (t.receiveControl received) := by
  cases received with
  | none => exact h
  | some code => exact h.onImages fun i => i.receiveControl_matches h.env code

theorem beginSwitch (h : s.Lags R lag t) (target : Mode) (now : Nat) :
    (s.beginSwitch target now).Lags R lag (t.beginSwitch target (now + lag)) := by
  have dropped := (h.note (m := .switchingTo target) rfl).update Device.abandon (fun _ _ => rfl) rfl
  have marked := dropped.device.alike.requeue.mark .setMode true
  unfold Session.beginSwitch
  rw [h.device.config]
  refine startTimer (advance ?_ _) _ _ now
  exact ⟨dropped.device.withSlots marked, dropped.env⟩

theorem wanted (h : s.Lags R lag t) : t.wanted = s.wanted := h.device.alike.pending .setMode

theorem opened (h : s.Lags R lag t) (r : Request) : (s.opened r).Lags R lag (t.opened r) := by
  unfold Session.opened
  rw [h.device.link]
  refine note ?_ rfl
  exact ⟨h.device.withSlots (h.device.alike.place r _ _), h.env⟩

theorem enterTick (h : s.Lags R lag t) (now : Nat) :
    (s.enterTick now).Lags R lag (t.enterTick (now + lag)) := by
  refine enter ?_ rfl
  exact ⟨h.device.ticked now (now + lag), h.env⟩

variable [Transceiver σ] [Application σ] [Transceiver τ] [Application τ]

/-! ## Closing requests -/

theorem finish (h : s.Lags R lag t) (agree : Bisimulation R) (kind : Service)
    (outcome : Outcome) : (s.finish kind outcome).Lags R lag (t.finish kind outcome) := by
  unfold Session.finish
  rw [h.device.alike.isOpen]
  split
  · exact ⟨h.device.withSlots (h.device.alike.close kind), h.env.confirm agree kind outcome⟩
  · exact h

theorem failWhere (h : s.Lags R lag t) (agree : Bisimulation R) (cause : Failure)
    (select : Service → Bool) :
    (s.failWhere cause select).Lags R lag (t.failWhere cause select) := by
  have kinds := h.device.alike.among (Service.all.filter select)
  refine ⟨h.device.withSlots (h.device.alike.takeWhere select),
    h.env.foldl_confirm agree cause ?_⟩
  exact (Slots.kinds_tickets ..).trans (kinds.trans (Slots.kinds_tickets ..).symm)

/-! ## Failures -/

theorem enterFault (h : s.Lags R lag t) (agree : Bisimulation R) (cause : Failure) :
    (s.enterFault cause).Lags R lag (t.enterFault cause) := by
  unfold Session.enterFault
  rw [h.device.link]
  exact ((((h.note rfl).update _ (fun _ _ => rfl) rfl).update _ (fun _ _ => rfl) rfl).advance
    _).failWhere agree _ _

theorem failExchange (h : s.Lags R lag t) (agree : Bisimulation R) (cause : Failure) :
    (s.failExchange cause).Lags R lag (t.failExchange cause) := by
  have failed := (h.update (fun d => { d with tally := d.tally.failed cause }) (fun _ _ => rfl)
    rfl).advance .recoverableError
  exact ⟨failed.device, failed.env.cycle agree⟩

theorem recover (h : s.Lags R lag t) (agree : Bisimulation R) (cause : Failure) :
    (s.recover cause).Lags R lag (t.recover cause) := by
  have failed := (h.failExchange agree cause).update (fun d => { d with retries := d.retries.fail })
    (fun _ _ => rfl) rfl
  unfold Session.recover
  dsimp only
  rw [h.device.retries]
  split
  · exact (failed.update _ (fun _ _ => rfl) rfl).note (by rw [failed.device.retries])
  · exact (failed.note rfl).enterFault agree _

/-! ## Mode switches -/

theorem establish (h : s.Lags R lag t) (agree : Bisimulation R) (mode : Mode) (now : Nat) :
    (s.establish mode now).Lags R lag (t.establish mode (now + lag)) := by
  unfold Session.establish
  dsimp only
  rw [h.device.limits]
  have confirmed := (h.advance (.modeConfirmed mode)).update
    (fun d => { d with
      images := d.images.setLimits (s.device.limits mode).1 (s.device.limits mode).2
      retries := d.retries.reset }) (fun _ _ => rfl) rfl
  refine finish ?_ agree _ _
  split
  · exact (confirmed.superviseCycles now).note rfl
  · exact confirmed.failWhere agree _ _

theorem rejectMode (h : s.Lags R lag t) (agree : Bisimulation R) (mode target : Mode) :
    (s.rejectMode mode target).Lags R lag (t.rejectMode mode target) :=
  (h.note rfl).enterFault agree _

theorem modeSwitched (h : s.Lags R lag t) (agree : Bisimulation R) (mode : Mode) (now : Nat) :
    (s.modeSwitched mode now).Lags R lag (t.modeSwitched mode (now + lag)) := by
  unfold Session.modeSwitched
  rw [h.device.link]
  cases s.device.link with
  | switching target =>
    have stopped := h.stopTimer .modeSwitch
    obtain ⟨same, committed⟩ := stopped.commit mode
    dsimp only
    split
    · rw [same]
      split
      · exact committed.establish agree mode now
      · exact committed.rejectMode agree mode target
    · exact stopped.rejectMode agree mode target
  | _ => exact h.note rfl

/-! ## Exchanges -/

theorem complete (h : s.Lags R lag t) (agree : Bisimulation R) (kind : Service) :
    (s.complete kind).Lags R lag (t.complete kind) := by
  unfold Session.complete
  rw [h.device.alike.request?, h.device.images, h.device.store]
  split
  · exact h
  · split
    · exact (h.update _ (fun _ _ => rfl) rfl).finish agree _ _
    · exact h.finish agree _ _
  · exact (h.note rfl).finish agree _ _
  · exact h.finish agree _ _
  · exact (h.update _ (fun _ _ => rfl) rfl).finish agree _ _

theorem settle (h : s.Lags R lag t) (agree : Bisimulation R) : s.settle.Lags R lag t.settle := by
  unfold Session.settle
  rw [h.device.inFlight]
  split
  · exact (h.update _ (fun _ _ => rfl) rfl).complete agree _
  · exact h.update _ (fun _ _ => rfl) rfl

theorem deliver (h : s.Lags R lag t) (agree : Bisimulation R) (data : Octets) :
    (s.deliver data).Lags R lag (t.deliver data) := by
  unfold Session.deliver
  split
  · exact h
  · exact h.onImages fun i => i.deliver_matches agree h.env data

theorem offerControl (h : s.Lags R lag t) (agree : Bisimulation R) :
    s.offerControl.Lags R lag t.offerControl :=
  h.onImages fun i => i.offerControl_matches agree h.env

theorem accept (h : s.Lags R lag t) (agree : Bisimulation R) (now : Nat)
    (access : Option Access) :
    (s.accept now access).Lags R lag (t.accept (now + lag) access) := by
  cases access with
  | none => exact h
  | some access =>
    unfold Session.accept
    dsimp only
    rw [h.device.alike.isOpen]
    split
    · exact h.note rfl
    · obtain ⟨same, served⟩ := access.serve_matches agree h.env
      rw [same]
      exact ⟨h.device.withSlots (h.device.alike.place _ now (now + lag)), served⟩

theorem cycle (h : s.Lags R lag t) (agree : Bisimulation R) : s.cycle.Lags R lag t.cycle :=
  ⟨h.device, h.env.cycle agree⟩

theorem receiveMaster (h : s.Lags R lag t) (agree : Bisimulation R) (master : MasterFrame)
    (now : Nat) :
    (s.receiveMaster master now).Lags R lag (t.receiveMaster master (now + lag)) := by
  unfold Session.receiveMaster
  rw [h.device.images]
  split
  · exact (h.note rfl).enterFault agree _
  · exact ((((((h.succeed master.output now).settle agree).deliver agree _).receiveControl
      _).offerControl agree).accept agree now _).cycle agree

theorem transferComplete (h : s.Lags R lag t) (agree : Bisimulation R) (frame : Octets)
    (now : Nat) :
    (s.transferComplete frame now).Lags R lag (t.transferComplete frame (now + lag)) := by
  unfold Session.transferComplete
  rw [h.device.link]
  split
  · have received := (h.stopTimer .transfer).note (m := .received frame) rfl
    dsimp only
    split
    · exact received.receiveMaster agree _ now
    · split
      · exact received.recover agree _
      · exact received.enterFault agree _
  · exact h.note rfl

theorem transferFailed (h : s.Lags R lag t) (agree : Bisimulation R) (fault : LineFault) :
    (s.transferFailed fault).Lags R lag (t.transferFailed fault) := by
  unfold Session.transferFailed
  rw [h.device.link]
  split
  · exact (h.stopTimer .transfer).recover agree _
  · exact h.note rfl

theorem receive (h : s.Lags R lag t) (agree : Bisimulation R) (indication : Indication)
    (now : Nat) :
    (s.receive indication now).Lags R lag (t.receive indication (now + lag)) := by
  cases indication with
  | modeSwitched mode => exact h.modeSwitched agree mode now
  | transferComplete frame => exact h.transferComplete agree frame now
  | transferFailed fault => exact h.transferFailed agree fault
  | hardwareFault => exact h.enterFault agree _

/-! ## Expired timers -/

theorem timeout (h : s.Lags R lag t) (agree : Bisimulation R) (timer : Timer) :
    (s.timeout timer).Lags R lag (t.timeout timer) := by
  unfold Session.timeout
  rw [h.device.link]
  cases timer with
  | modeSwitch =>
    cases s.device.link with
    | switching target => exact (h.note rfl).enterFault agree _
    | _ => exact h.note rfl
  | transfer =>
    cases s.device.link with
    | transferring => exact h.recover agree _
    | _ => exact h.note rfl
  | maxCycle =>
    cases s.device.link with
    | active | transferring => exact (h.note rfl).enterFault agree _
    | _ => exact h.note rfl

theorem serveTimer (h : s.Lags R lag t) (agree : Bisimulation R) (timer : Timer) :
    (s.serveTimer timer).Lags R lag (t.serveTimer timer) :=
  ((h.enter rfl).stopTimer timer).timeout agree timer

/-- The same timers expire, one after the other. -/
theorem expireTimers (h : s.Lags R lag t) (agree : Bisimulation R) (now : Nat) :
    (s.expireTimers now).Lags R lag (t.expireTimers (now + lag)) := by
  have due {s : Session σ} {t : Session τ} (h : s.Lags R lag t) :
      t.device.line.timers.due? (now + lag) = s.device.line.timers.due? now := by
    rw [h.device.line]
    exact Timers.due?_delay _ now
  fun_induction s.expireTimers now generalizing t with
  | case1 s quiet =>
    rw [expireTimers_of_quiet ((due h).trans quiet)]
    exact h
  | case2 s timer next ih =>
    rw [expireTimers_of_due ((due h).trans next)]
    exact ih (h.serveTimer agree timer)

/-! ## The dispatch work -/

theorem serveMode (h : s.Lags R lag t) (agree : Bisimulation R) :
    s.serveMode.Lags R lag t.serveMode := by
  unfold Session.serveMode
  rw [h.device.alike.isPending, h.device.line]
  split
  · exact h.finish agree _ _
  · exact h

theorem serveLocally (h : s.Lags R lag t) (agree : Bisimulation R) (request : Request) :
    (s.serveLocally request).Lags R lag (t.serveLocally request) := by
  unfold Session.serveLocally
  rw [h.device.store]
  exact ((h.update _ (fun _ _ => rfl) rfl).note rfl).finish agree _ _

theorem serveAllLocally (h : s.Lags R lag t) (agree : Bisimulation R) :
    s.serveAllLocally.Lags R lag t.serveAllLocally := by
  fun_induction Session.serveAllLocally s generalizing t with
  | case1 s none =>
    rw [serveAllLocally_of_none (h.device.alike.nextOutOfCycle.trans none)]
    exact h
  | case2 s request next ih =>
    rw [serveAllLocally_of_next (h.device.alike.nextOutOfCycle.trans next)]
    exact ih (h.serveLocally agree request)

theorem send (h : s.Lags R lag t) (agree : Bisimulation R) (out : InFlight) (now : Nat) :
    (s.send out now).Lags R lag (t.send out (now + lag)) := by
  obtain ⟨same, after⟩ := h.env.transfer agree out.frame.encode
  have sent : Lags R lag { s with env := (s.env.transfer out.frame.encode).2 }
      { t with env := (t.env.transfer out.frame.encode).2 } := ⟨h.device, after⟩
  unfold Session.send
  dsimp only
  rw [same, h.device.config]
  split
  · have launched := sent.device.launch out
    refine startTimer (advance ?_ _) _ _ now
    exact ⟨launched, after⟩
  · exact sent.note rfl

theorem exchange (h : s.Lags R lag t) (agree : Bisimulation R) (now : Nat) :
    (s.exchange now).Lags R lag (t.exchange (now + lag)) := by
  unfold Session.exchange
  rw [h.device.choose, h.device.retries]
  split
  · exact (h.note rfl).send agree _ now
  · exact h.send agree _ now
  · exact (h.note rfl).finish agree _ _

theorem clearFault (h : s.Lags R lag t) (agree : Bisimulation R) :
    s.clearFault.Lags R lag t.clearFault := by
  unfold Session.clearFault
  rw [h.device.link]
  split
  · exact h.failWhere agree _ _
  · exact h

theorem switchTo (h : s.Lags R lag t) (agree : Bisimulation R) (target : Mode) (now : Nat) :
    (s.switchTo target now).Lags R lag (t.switchTo target (now + lag)) := by
  obtain ⟨same, after⟩ := h.env.setMode agree target
  have same : (t.device.line.setMode target t.env).1 = (s.device.line.setMode target s.env).1 :=
    same
  have line : (t.device.line.setMode target t.env).2.1 =
      (s.device.line.setMode target s.env).2.1.delay lag := by
    unfold Line.setMode at same ⊢
    dsimp only at same ⊢
    rw [same, h.device.line]
    split <;> rfl
  have asked : (s.onLine fun _ _ => (s.device.line.setMode target s.env).2).Lags R lag
      (t.onLine fun _ _ => (t.device.line.setMode target t.env).2) :=
    ⟨h.device.withLine line, after⟩
  unfold Session.switchTo
  dsimp only
  rw [same]
  split
  · exact asked.beginSwitch target now
  · exact asked.finish agree _ _

theorem dispatch (h : s.Lags R lag t) (agree : Bisimulation R) (now : Nat) :
    (s.dispatch now).Lags R lag (t.dispatch (now + lag)) := by
  have served := h.serveMode agree
  unfold Session.dispatch
  dsimp only
  rw [served.device.link, served.wanted]
  split
  · exact (served.clearFault agree).switchTo agree _ now
  · exact (served.clearFault agree).switchTo agree _ now
  · exact (served.clearFault agree).switchTo agree _ now
  · exact served.serveAllLocally agree
  · exact served.exchange agree now
  all_goals exact served

/-! ## Steps -/

theorem submit (h : s.Lags R lag t) (agree : Bisimulation R) (r : Request) :
    Matches (Lags R lag) (s.submit r) (t.submit r) := by
  have asked (answer : Except Failure Unit) :
      (s.enter (.requested r answer)).Lags R lag (t.enter (.requested r answer)) := h.enter rfl
  have entered := asked (s.device.admits r)
  refine ⟨h.device.admits r, ?_⟩
  unfold Session.submit
  dsimp only
  rw [h.device.admits]
  split
  · exact entered.opened r
  · exact ⟨entered.device, (entered.env.note _).confirm agree _ _⟩

theorem poll (h : s.Lags R lag t) (agree : Bisimulation R) (now : Nat) :
    (s.poll now).Lags R lag (t.poll (now + lag)) := by
  obtain ⟨same, after⟩ := h.env.poll agree
  have polled : Lags R lag { s with env := s.env.poll.2 } { t with env := t.env.poll.2 } :=
    ⟨h.device, after⟩
  unfold Session.poll
  dsimp only
  rw [same]
  split
  · exact polled.receive agree _ now
  · exact polled

theorem tick (h : s.Lags R lag t) (agree : Bisimulation R) (now : Nat) :
    (s.tick now).Lags R lag (t.tick (now + lag)) :=
  (((h.enterTick now).poll agree now).expireTimers agree now).dispatch agree now

end Lags

end Session

end Sdci
