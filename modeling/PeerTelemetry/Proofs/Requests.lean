import PeerTelemetry.Program

/-!
# What is asked of the network

A socket is prepared by one request after the other, none of which can be done without. Whatever
the network is, **either all of them are granted, or one is the first to be refused**
(`Network.grants_or_refuses`), and then nothing is asked behind it, and the failure is the one
of that request. So opening a listener and sending a report are each told by two facts: what they
come to where everything is granted, and that they come to the failure of the first refusal
otherwise.

Next to what comes of a task there is what was asked for it. A task that is finished asks for
nothing; the others ask what their dialogue asks, and a listener for its address when it stops.
-/

namespace PeerTelemetry

/-! ## Rows of requests -/

namespace Network

variable {network : Network} {before requests granted rest : List Request} {r : Request}
  {cause : OsError}

/-- **The first of a row of requests that is refused**, behind those that are granted. -/
structure Refuses (network : Network) (before requests granted : List Request) (r : Request)
    (cause : OsError) : Prop where
  isPrefix : granted ++ [r] <+: requests
  grants : network.Grants before granted
  answer_eq : network.answer (before ++ granted) r = .error cause

/-- **A row of requests is granted throughout, or there is a first that is refused.** -/
theorem grants_or_refuses (network : Network) (before requests : List Request) :
    network.Grants before requests
      ∨ ∃ granted r cause, network.Refuses before requests granted r cause := by
  induction requests generalizing before with
  | nil => exact Or.inl trivial
  | cons r rest ih =>
    cases hanswer : network.answer before r with
    | error cause =>
      refine Or.inr ⟨[], r, cause, List.prefix_append [r] rest, trivial, ?_⟩
      rwa [List.append_nil]
    | ok a =>
      rcases ih (before ++ [r]) with hrest | ⟨granted, r', cause, hrefuses⟩
      · exact Or.inl ⟨⟨a, hanswer⟩, hrest⟩
      · refine Or.inr ⟨r :: granted, r', cause, ?_, ⟨⟨a, hanswer⟩, hrefuses.grants⟩, ?_⟩
        · exact (List.cons_prefix_cons).mpr ⟨rfl, hrefuses.isPrefix⟩
        · have hanswer' := hrefuses.answer_eq
          rwa [List.append_assoc] at hanswer'

/-- What is refused of a row, or of one request more. -/
theorem Refuses.append (h : network.Refuses before requests granted r cause)
    (rest : List Request) : network.Refuses before (requests ++ rest) granted r cause :=
  ⟨h.isPrefix.trans (List.prefix_append requests rest), h.grants, h.answer_eq⟩

theorem refuses_last (h : network.Grants before requests)
    (hanswer : network.answer (before ++ requests) r = .error cause) :
    network.Refuses before (requests ++ [r]) requests r cause :=
  ⟨List.prefix_rfl, h, hanswer⟩

end Network

namespace Dialogue

variable {β ε : Type} {network : Network} {before requests granted : List Request} {r : Request}
  {cause : OsError} {failure : Request → OsError → ε}

theorem hold_ask {α : Type} {next : Except OsError r.Answer → Dialogue α} :
    (ask r next).hold network before
      = (((next (network.answer before r)).hold network (before ++ [r])).1,
        r :: ((next (network.answer before r)).hold network (before ++ [r])).2) :=
  rfl

/-- What is asked for and granted is had. -/
theorem hold_demand_of_ok {a : r.Answer} {wrap : OsError → ε}
    (h : network.answer before r = .ok a) (f : r.Answer → ExceptT ε Dialogue β) :
    (demand r wrap >>= f).run.hold network before
      = (((f a).run.hold network (before ++ [r])).1,
        r :: ((f a).run.hold network (before ++ [r])).2) := by
  refine hold_ask.trans ?_
  rw [h]
  rfl

theorem hold_demand_of_error {wrap : OsError → ε} (h : network.answer before r = .error cause)
    (f : r.Answer → ExceptT ε Dialogue β) :
    (demand r wrap >>= f).run.hold network before = (.error (wrap cause), [r]) := by
  refine hold_ask.trans ?_
  rw [h]
  rfl

/-- A row of requests is its first one, and then the others. -/
theorem demandAll_cons_bind (failure : Request → OsError → ε) (r : Request)
    (rest : List Request) (f : Unit → ExceptT ε Dialogue β) :
    demandAll failure (r :: rest) >>= f
      = demand r (failure r) >>= fun _ => demandAll failure rest >>= f := by
  show Dialogue.ask r _ = Dialogue.ask r _
  congr 1
  funext answer
  cases answer <;> rfl

/-- **Where a row of requests is granted**, what follows goes on behind them. -/
theorem hold_demandAll_of_grants (h : network.Grants before requests)
    (f : Unit → ExceptT ε Dialogue β) :
    (demandAll failure requests >>= f).run.hold network before
      = (((f ()).run.hold network (before ++ requests)).1,
        requests ++ ((f ()).run.hold network (before ++ requests)).2) := by
  induction requests generalizing before with
  | nil =>
    rw [List.append_nil]
    rfl
  | cons r rest ih =>
    obtain ⟨⟨a, hanswer⟩, hrest⟩ := h
    rw [demandAll_cons_bind, hold_demand_of_ok hanswer, ih hrest, List.append_assoc]
    rfl

/-- **Where one of a row is refused**, that is the failure, and nothing follows. -/
theorem hold_demandAll_of_refuses (h : network.Refuses before requests granted r cause)
    (f : Unit → ExceptT ε Dialogue β) :
    (demandAll failure requests >>= f).run.hold network before
      = (.error (failure r cause), granted ++ [r]) := by
  obtain ⟨⟨rest, rfl⟩, hgrants, hanswer⟩ := h
  induction granted generalizing before with
  | nil =>
    rw [List.append_nil] at hanswer
    rw [List.nil_append, List.singleton_append, demandAll_cons_bind, hold_demand_of_error hanswer]
  | cons r' granted ih =>
    obtain ⟨⟨a, hanswer'⟩, hgrants⟩ := hgrants
    rw [List.cons_append, List.cons_append, demandAll_cons_bind, hold_demand_of_ok hanswer',
      ih hgrants (by rwa [List.append_assoc])]

end Dialogue

/-! ## Opening a listener, sending a report -/

namespace Listener

variable {network : Network} {before granted : List Request} {r : Request} {cause : OsError}
  {s : Settings} {a address : SocketAddress}

/-- Without an address nothing is asked. -/
theorem hold_bind_of_error {e : SettingsError} (haddress : s.bindAddress = .error e) :
    (bind s).run.hold network before = (.error (.settings e), []) := by
  unfold bind
  rw [haddress]
  rfl

/-- **A listener is opened** where all is granted that it asks for, and otherwise fails for the
first that is refused. -/
theorem hold_bind_of_ok (haddress : s.bindAddress = .ok a) (network : Network)
    (before : List Request) :
    (∃ address, network.Grants before (preparations s.receiveBuffer a)
        ∧ network.answer (before ++ preparations s.receiveBuffer a) .localAddress = .ok address
        ∧ (bind s).run.hold network before
          = (.ok ⟨address, s.policy⟩, preparations s.receiveBuffer a ++ [.localAddress]))
      ∨ ∃ granted r cause,
        network.Refuses before (preparations s.receiveBuffer a ++ [.localAddress]) granted r cause
          ∧ (bind s).run.hold network before = (.error (failureOf r cause), granted ++ [r]) := by
  unfold bind
  rw [haddress]
  dsimp only
  rcases network.grants_or_refuses before (preparations s.receiveBuffer a) with
    hgrants | ⟨granted, r, cause, hrefuses⟩
  · rw [Dialogue.hold_demandAll_of_grants hgrants]
    cases hanswer : network.answer (before ++ preparations s.receiveBuffer a) .localAddress with
    | ok address =>
      rw [Dialogue.hold_demand_of_ok hanswer]
      exact Or.inl ⟨address, hgrants, rfl, rfl⟩
    | error cause =>
      rw [Dialogue.hold_demand_of_error hanswer]
      exact Or.inr ⟨_, _, cause, Network.refuses_last hgrants hanswer, rfl⟩
  · rw [Dialogue.hold_demandAll_of_refuses hrefuses]
    exact Or.inr ⟨granted, r, cause, hrefuses.append _, rfl⟩

end Listener

namespace Report

variable {network : Network} {target : SocketAddress} {r : Report}

/-- **A report is handed to the network** where there is a socket to send it from, and what comes
of it is the answer to that. -/
theorem hold_send_of_grants (h : network.Grants [] target.preparations) (r : Report) :
    (r.send target).run.hold network []
      = ((network.answer target.preparations (.send target r.bytes)).mapError (.send target),
        target.preparations ++ [.send target r.bytes]) := by
  unfold send
  rw [Dialogue.hold_demandAll_of_grants h]
  rfl

/-- It is not where there is no socket. -/
theorem hold_send_of_refuses {granted : List Request} {request : Request} {cause : OsError}
    (h : network.Refuses [] target.preparations granted request cause) (r : Report) :
    (r.send target).run.hold network [] = (.error (.socket cause), granted ++ [request]) := by
  unfold send
  rw [Dialogue.hold_demandAll_of_refuses h]

end Report

/-! ## Tasks -/

namespace Host

variable (host : Host) (output : Stream)

/-- What follows a dialogue goes on with its result, behind its requests. -/
theorem run_converse_bind {α β : Type} {d : Dialogue α} {a : α} {t : Record}
    {requests : List Request} (h : d.hold host.network t.requests = (a, requests))
    (f : α → StateM Record β) :
    (host.stage.converse d >>= f).run t
      = (f a).run { t with requests := t.requests ++ requests } := by
  have hconverse : (host.stage.converse d).run t
      = ((d.hold host.network t.requests).1,
        { t with requests := t.requests ++ (d.hold host.network t.requests).2 }) := rfl
  rw [StateT.run_bind, hconverse, h]
  rfl

theorem run_stage_forM_note (notices : List Notice) (t : Record) :
    (notices.forM host.stage.note).run t = ((), { t with notices := t.notices ++ notices }) := by
  induction notices generalizing t with
  | nil =>
    rw [List.append_nil]
    rfl
  | cons n notices ih =>
    refine (ih { t with notices := t.notices ++ [n] }).trans ?_
    rw [List.append_assoc]
    rfl

/-- Where there is nothing left to do, nothing is asked. -/
theorem run_finish (text : String) (notices : List Notice) (ending : Ending) :
    host.run output (.finish text notices ending)
      = { output := { output with written := output.written ++ utf8 text.toList },
          notices, ending } := by
  have hperform : ((Task.finish text notices ending).perform host.stage).run { output }
      = (ending, ((notices.forM host.stage.note).run
          { output := { output with written := output.written ++ utf8 text.toList } }).2) :=
    rfl
  unfold run
  rw [hperform, run_stage_forM_note]
  rfl

/-- **A listener is opened, and then it runs.** -/
theorem run_listen (s : Settings) :
    host.run output (.listen s)
      = match (Listener.bind s).run.hold host.network [] with
        | (.error cause, requests) => { output, requests, ending := .failure cause }
        | (.ok l, requests) =>
          let stop := ⟨[.signalled host.signal], host.network.answer requests .localAddress⟩
          let run := l.run stop output host.arrivals
          let notices := .listening l.address :: run.notices
          let requests := requests ++ run.requests
          match run.conclusion with
          | .error cause => { output := run.stream, notices, requests, ending := .failure cause }
          | .ok () =>
            { output := run.stream, notices := notices ++ [.interrupted], requests,
              ending := .success } := by
  unfold run Task.perform
  rcases hopening : (Listener.bind s).run.hold host.network [] with ⟨_ | l, requests⟩
  · rw [host.run_converse_bind hopening]
    rfl
  · rw [host.run_converse_bind hopening]
    dsimp only
    rcases hrun : l.run ⟨[.signalled host.signal], host.network.answer requests .localAddress⟩
      output host.arrivals with ⟨conclusion, stream, notices, asked⟩
    have hlisten : (do host.stage.note (.listening l.address)
                       host.stage.listen l : StateM Record _).run { output, requests }
        = (conclusion, ⟨stream, .listening l.address :: notices, requests ++ asked⟩) :=
      congrArg (fun run : Run => (run.conclusion,
        Record.mk run.stream (.listening l.address :: run.notices) (requests ++ run.requests))) hrun
    rw [← bind_assoc, StateT.run_bind, List.nil_append, hlisten]
    cases conclusion with
    | error cause => rfl
    | ok _ => rfl

/-- **A report is sent, and then that is noted.** -/
theorem run_send (target : SocketAddress) (r : Report) :
    host.run output (.send target r)
      = match (r.send target).run.hold host.network [] with
        | (.error cause, requests) => { output, requests, ending := .failure cause }
        | (.ok count, requests) =>
          { output, requests, ending := .success,
            notices := [.sent r.sequence r.peers.length count target] } := by
  unfold run Task.perform
  rcases hsend : (r.send target).run.hold host.network [] with ⟨_ | count, requests⟩
  · rw [host.run_converse_bind hsend]
    rfl
  · rw [host.run_converse_bind hsend]
    rfl

end Host

end PeerTelemetry
