import PeerTelemetry.Proofs.ListenerRun
import PeerTelemetry.Proofs.Requests
import PeerTelemetry.Toml.Document

/-!
# What a listener is run with

A settings file is used in two places that do not know of each other. Validating a file loads it and
resolves the address it names; listening loads it, puts in place of what it says what was
asked for, and resolves the address as the listener is opened. **Both ask the same two
questions of the same settings**: whether the file can be loaded, and whether there is an address
(`Host.ending_eq_settings_iff`). So where nothing is asked for, they give the same answers.

What is asked for can only stand between the two questions. A file that cannot be loaded is not
saved by it, since there are no settings to put anything in place of; and a host that is no
address is, since nothing has been made of it yet.

That a listener is run with settings is told by what it asks of the network: the receive buffer and
the address that they name, and nothing if they name none.
-/

namespace PeerTelemetry

/-! ## Settings -/

/-- **The settings that what is asked for is put in place of**: those of the file, if one is named,
and otherwise the defaults. -/
def ListenOptions.Loads (asked : ListenOptions) (source : Settings.Source) (base : Settings) :
    Prop :=
  match asked.config with
  | none => base = {}
  | some path => Settings.load source path = .ok base

theorem ListenOptions.loads_of_config {source : Settings.Source} {asked : ListenOptions}
    {path : String} {base : Settings} (hconfig : asked.config = some path)
    (h : Settings.load source path = .ok base) : asked.Loads source base := by
  unfold Loads
  rw [hconfig]
  exact h

namespace Task

variable {source : Settings.Source} {asked : ListenOptions} {path : String} {s base : Settings}
  {e : SettingsError}

theorem ofCommand_listen_of_loads (h : asked.Loads source base) :
    ofCommand source (some (.listen asked)) = .listen (base.override asked) := by
  unfold ListenOptions.Loads at h
  unfold ofCommand ofListen ListenOptions.settings
  dsimp only
  split at h
  case h_1 hconfig =>
    rw [hconfig, h]
    rfl
  case h_2 hconfig =>
    rw [hconfig]
    dsimp only
    rw [h]
    rfl

/-- **A file that cannot be loaded** leaves nothing to do, whatever else is asked for. -/
theorem ofCommand_listen_of_load_eq_error (hconfig : asked.config = some path)
    (h : Settings.load source path = .error e) :
    ofCommand source (some (.listen asked)) = fail (.settings e) := by
  unfold ofCommand ofListen ListenOptions.settings
  dsimp only
  rw [hconfig]
  dsimp only
  rw [h]
  rfl

end Task

/-! ## Addresses -/

/-- **A request for what settings name**: a receive buffer of some size, or an address. -/
def Request.isSetting : Request → Bool
  | .receiveBuffer _ | .bind _ => true
  | _ => false

/-- **A listener that is opened at an address, with a policy**: whatever the network is and was
asked before, it is asked for the receive buffer that is set, if one is, and then for that address,
and for no other of them. Where all that is asked is granted, what it gives is listened at with that
policy, and otherwise the first refusal is the failure. -/
def Settings.OpensAt (s : Settings) (a : SocketAddress) (policy : DecodePolicy) : Prop :=
  ∃ preparations : List Request,
    preparations.filter Request.isSetting
        = (s.receiveBuffer.map Request.receiveBuffer).toList ++ [.bind a]
      ∧ ∀ (network : Network) (before : List Request),
        let opening := (Listener.bind s).run.hold network before
        (∃ address, network.Grants before preparations
            ∧ network.answer (before ++ preparations) .localAddress = .ok address
            ∧ opening = (.ok ⟨address, policy⟩, preparations ++ [.localAddress]))
          ∨ ∃ granted r cause,
            network.Refuses before (preparations ++ [.localAddress]) granted r cause
              ∧ opening = (.error (Listener.failureOf r cause), granted ++ [r])

/-- Nothing else that settings name is asked for when a socket is prepared. -/
theorem Listener.filter_isSetting_preparations (receiveBuffer : Option Nat) (a : SocketAddress) :
    (preparations receiveBuffer a).filter Request.isSetting
      = (receiveBuffer.map Request.receiveBuffer).toList ++ [.bind a] := by
  unfold preparations
  cases a.ip.isV6 <;> cases receiveBuffer <;> rfl

section Address

variable {s : Settings} {a : SocketAddress} {e : SettingsError}

/-- Where a host is asked for, the settings need not have one. -/
theorem Settings.bindAddress_override_of_host {asked : ListenOptions} {name : String}
    {ip : IpAddress} (h : asked.host = some name) (hname : IpAddress.parse? name.toList = some ip)
    (s : Settings) :
    (s.override asked).bindAddress = .ok { ip, port := asked.port.getD s.port } := by
  unfold override bindAddress
  rw [h, Option.getD_some, hname]

/-- Where no host is asked for, the address is that of the settings, with the port that is asked
for. -/
theorem Settings.bindAddress_override {asked : ListenOptions} (h : asked.host = none)
    (s : Settings) :
    (s.override asked).bindAddress
      = s.bindAddress.map fun a => { a with port := asked.port.getD a.port } := by
  unfold override bindAddress
  rw [h, Option.getD_none]
  cases IpAddress.parse? s.host.toList <;> rfl

theorem Settings.opensAt_of_bindAddress (h : s.bindAddress = .ok a) : s.OpensAt a s.policy :=
  ⟨_, Listener.filter_isSetting_preparations s.receiveBuffer a,
    fun network before => Listener.hold_bind_of_ok h network before⟩

/-- A run does not fail for settings. -/
theorem Listener.conclusion_run_ne_settings (l : Listener) (stop : Shutdown) (stream : Stream)
    (arrivals : List Arrival) (e : SettingsError) :
    (l.run stop stream arrivals).conclusion ≠ .error (.settings e) := by
  unfold run
  generalize emptyBuffer = buffer
  induction arrivals generalizing buffer stream with
  | nil =>
    unfold runFrom Shutdown.run
    intro h
    cases haddress : stop.address with
    | ok a =>
      rw [haddress] at h
      cases h
    | error cause =>
      rw [haddress] at h
      cases h
  | cons a arrivals ih =>
    rcases hreceive : (l.receive buffer a).runOn stream with ⟨_ | ⟨buffer', notice⟩, stream'⟩
    · rw [runFrom_cons_of_error stop arrivals hreceive]
      intro h
      cases h
    · rw [runFrom_cons_of_ok stop arrivals hreceive]
      exact ih stream' buffer'

/-- **A listener fails for its settings** only where they name no address. -/
theorem Host.ending_eq_settings_iff (host : Host) (output : Stream) :
    (host.run output (.listen s)).ending = .failure (.settings e) ↔ s.bindAddress = .error e := by
  rw [run_listen]
  cases haddress : s.bindAddress with
  | error e' =>
    rw [Listener.hold_bind_of_error haddress]
    simp
  | ok a =>
    refine iff_of_false ?_ (fun h => nomatch h)
    rcases Listener.hold_bind_of_ok haddress host.network [] with
      ⟨address, -, -, hopening⟩ | ⟨granted, r, cause, -, hopening⟩
    · rw [hopening]
      dsimp only
      split
      · rename_i cause hcause
        rintro ⟨⟩
        exact Listener.conclusion_run_ne_settings _ _ _ _ e hcause
      · exact fun h => nomatch h
    · rw [hopening]
      cases r <;> exact fun h => nomatch h

/-- **What opening a listener asks** of the network is asked first. -/
theorem Host.isPrefix_requests_run_listen (host : Host) (output : Stream) (s : Settings) :
    ((Listener.bind s).run.hold host.network []).2
      <+: (host.run output (.listen s)).requests := by
  rw [run_listen]
  rcases (Listener.bind s).run.hold host.network [] with ⟨_ | l, requests⟩
  · exact List.prefix_rfl
  · dsimp only
    split <;> exact List.prefix_append _ _

/-! ## Validating -/

variable {source : Settings.Source} {path : String}

/-- What is wrong with a file that cannot be loaded is that. -/
theorem resolve_of_load_eq_error (h : Settings.load source path = .error e) :
    resolve source path = .error e := by
  unfold resolve
  rw [h]
  rfl

/-- What is wrong with a file that can be loaded is its host. -/
theorem resolve_of_load_eq_ok (h : Settings.load source path = .ok s) :
    resolve source path = s.bindAddress.map fun a => (s, a) := by
  unfold resolve
  rw [h]
  show (s.bindAddress >>= fun a => pure (s, a)) = _
  cases s.bindAddress <;> rfl

end Address

/-! ## Validating and listening -/

namespace Host

variable (host : Host) (output : Stream) {asked : ListenOptions} {path : String}
  {s base : Settings} {a : SocketAddress} {e : SettingsError}

/-- Without settings nothing is asked of the network. -/
theorem perform_listen_of_load_eq_error (hconfig : asked.config = some path)
    (h : Settings.load host.source path = .error e) :
    host.perform output (.listen asked) = { output, ending := .failure (.settings e) } := by
  unfold perform
  rw [Task.ofCommand_listen_of_load_eq_error hconfig h, Task.fail, run_finish]
  show Transcript.mk ⟨{ output with written := output.written ++ [] }, _, _⟩ _ = _
  rw [List.append_nil]

theorem perform_listen_of_loads (h : asked.Loads host.source base) :
    host.perform output (.listen asked) = host.run output (.listen (base.override asked)) := by
  unfold perform
  rw [Task.ofCommand_listen_of_loads h]

/-- **Validating succeeds** where the file can be loaded and names an address, and notes what it
says. -/
theorem perform_validate_of_ok (h : Settings.load host.source path = .ok s)
    (haddress : s.bindAddress = .ok a) :
    (host.perform output (.validate path)).ending = .success
      ∧ (host.perform output (.validate path)).notices
        = [.settingsValid path, .settingsAddress a, .settingsStrictness s.strict] := by
  unfold perform Task.ofCommand validate
  dsimp only
  rw [resolve_of_load_eq_ok h, haddress]
  exact ⟨rfl, rfl⟩

theorem perform_validate_of_error (h : resolve host.source path = .error e) :
    (host.perform output (.validate path)).ending = .failure .invalidSettings
      ∧ (host.perform output (.validate path)).notices = [.settingsInvalid path e] := by
  unfold perform Task.ofCommand validate
  dsimp only
  rw [h]
  exact ⟨rfl, rfl⟩

/-- **Validating a file succeeds** exactly where a listener does not fail for its settings that is
run with that file and is asked for no host. -/
theorem perform_validate_iff (hconfig : asked.config = some path) (hhost : asked.host = none) :
    (host.perform output (.validate path)).ending = .success
      ↔ ∀ e, (host.perform output (.listen asked)).ending ≠ .failure (.settings e) := by
  cases hload : Settings.load host.source path with
  | error e =>
    rw [(host.perform_validate_of_error output (resolve_of_load_eq_error hload)).1,
      host.perform_listen_of_load_eq_error output hconfig hload]
    exact iff_of_false (fun h => nomatch h) (fun h => h e rfl)
  | ok s =>
    rw [host.perform_listen_of_loads output (ListenOptions.loads_of_config hconfig hload)]
    simp only [ne_eq, ending_eq_settings_iff, Settings.bindAddress_override hhost]
    cases haddress : s.bindAddress with
    | error e =>
      have hresolve : resolve host.source path = .error e := by
        rw [resolve_of_load_eq_ok hload, haddress]
        rfl
      rw [(host.perform_validate_of_error output hresolve).1]
      exact iff_of_false (fun h => nomatch h) (fun h => h e rfl)
    | ok a =>
      exact iff_of_true (host.perform_validate_of_ok output hload haddress).1 (fun e h => nomatch h)

/-- A file that is valid can be loaded and names an address. -/
theorem exists_of_perform_validate
    (h : (host.perform output (.validate path)).ending = .success) :
    ∃ s a, Settings.load host.source path = .ok s ∧ s.bindAddress = .ok a := by
  cases hresolve : resolve host.source path with
  | error e =>
    rw [(host.perform_validate_of_error output hresolve).1] at h
    cases h
  | ok resolved =>
    cases hload : Settings.load host.source path with
    | error e =>
      rw [resolve_of_load_eq_error hload] at hresolve
      cases hresolve
    | ok s =>
      rw [resolve_of_load_eq_ok hload] at hresolve
      cases haddress : s.bindAddress with
      | error e =>
        rw [haddress] at hresolve
        cases hresolve
      | ok a => exact ⟨s, a, rfl, haddress⟩

/-- **The settings a listener is run with, and what validating says of them.** A listener whose file
cannot be loaded fails with the error of that, whatever else is asked for, and asks nothing of the
network. Any other is run with the settings of the file, or with the defaults where no file is
named, and in their place with the host and the port that are asked for; it is strict if that is
asked for or set, and its receive buffer is as the settings say. It begins with what it takes to
open a listener with these, which asks for that buffer and for the address they name.

Validating a file succeeds exactly where a listener with that file, and with no host asked for, does
not fail for its settings. What is noted then is the address such a listener is opened at, unless a
port is asked for, and the policy it decodes with, unless strictness is. A file that has nothing
wrong with it but its host is not valid, and can be listened with, at any host that is an
address. -/
theorem listen_and_validate :
    (∀ asked path e, asked.config = some path → Settings.load host.source path = .error e →
        host.perform output (.listen asked)
          = { output, notices := [], requests := [], ending := .failure (.settings e) })
      ∧ (∀ asked base, asked.Loads host.source base → ∃ s,
        Task.ofCommand host.source (some (.listen asked)) = .listen s
          ∧ s.host = asked.host.getD base.host ∧ s.port = asked.port.getD base.port
          ∧ (s.strict = true ↔ asked.strict = true ∨ base.strict = true)
          ∧ s.receiveBuffer = base.receiveBuffer
          ∧ ((Listener.bind s).run.hold host.network []).2
            <+: (host.perform output (.listen asked)).requests
          ∧ ∀ a, s.bindAddress = .ok a → s.OpensAt a s.policy)
      ∧ (∀ asked path, asked.config = some path → asked.host = none →
        ((host.perform output (.validate path)).ending = .success
          ↔ ∀ e, (host.perform output (.listen asked)).ending ≠ .failure (.settings e)))
      ∧ (∀ path, (host.perform output (.validate path)).ending = .success → ∃ a strict,
        (host.perform output (.validate path)).notices
            = [.settingsValid path, .settingsAddress a, .settingsStrictness strict]
          ∧ ∀ asked, asked.config = some path → asked.host = none → ∃ s a' policy,
            Task.ofCommand host.source (some (.listen asked)) = .listen s
              ∧ s.OpensAt a' policy ∧ (asked.port = none → a' = a)
              ∧ (asked.strict = false → policy = if strict then .strict else .lenient))
      ∧ ∀ path s name ip asked, Settings.load host.source path = .ok s →
        s.bindAddress = .error (.invalidHost s.host) → asked.config = some path →
        asked.host = some name → IpAddress.parse? name.toList = some ip →
        (host.perform output (.validate path)).ending = .failure .invalidSettings
          ∧ (host.perform output (.validate path)).notices
            = [.settingsInvalid path (.invalidHost s.host)]
          ∧ ∃ s' policy, Task.ofCommand host.source (some (.listen asked)) = .listen s'
            ∧ s'.OpensAt { ip, port := asked.port.getD s.port } policy := by
  refine ⟨fun asked path e hconfig h => host.perform_listen_of_load_eq_error output hconfig h,
    fun asked base h => ⟨_, Task.ofCommand_listen_of_loads h, rfl, rfl, ?_, rfl, ?_,
      fun a => Settings.opensAt_of_bindAddress⟩,
    fun asked path hconfig hhost => host.perform_validate_iff output hconfig hhost,
    fun path h => ?_, fun path s name ip asked hload haddress hconfig hhost hname => ?_⟩
  · show (base.strict || asked.strict) = true ↔ _
    rw [Bool.or_eq_true, or_comm]
  · rw [host.perform_listen_of_loads output h]
    exact host.isPrefix_requests_run_listen output _
  · obtain ⟨s, a, hload, haddress⟩ := host.exists_of_perform_validate output h
    refine ⟨a, s.strict, (host.perform_validate_of_ok output hload haddress).2,
      fun asked hconfig hhost => ?_⟩
    have hopens : (s.override asked).bindAddress
        = .ok { a with port := asked.port.getD a.port } := by
      rw [Settings.bindAddress_override hhost, haddress]
      rfl
    refine ⟨_, _, _,
      Task.ofCommand_listen_of_loads (ListenOptions.loads_of_config hconfig hload),
      Settings.opensAt_of_bindAddress hopens, fun hport => ?_, fun hstrict => ?_⟩
    · rw [hport]
      rfl
    · show (if (s.strict || asked.strict) = true then _ else _) = _
      rw [hstrict, Bool.or_false]
  · have hresolve : resolve host.source path = .error (.invalidHost s.host) := by
      rw [resolve_of_load_eq_ok hload, haddress]
      rfl
    obtain ⟨hending, hnotices⟩ := host.perform_validate_of_error output hresolve
    exact ⟨hending, hnotices, _, _,
      Task.ofCommand_listen_of_loads (ListenOptions.loads_of_config hconfig hload),
      Settings.opensAt_of_bindAddress (Settings.bindAddress_override_of_host hhost hname s)⟩

/-- A settings file with a host that is no address. -/
def misnamed : String :=
  "[listener]\nhost = \"nowhere\"\nport = 7000\nrecv_buffer_bytes = 65536\n"

/-- A host on which every settings file is that one. -/
def ofMisnamed : Host where
  network := .isolated 50000 []
  source := ⟨fun _ => .ok misnamed.toUTF8, Toml.read⟩
  arrivals := []
  signal := .interrupt

theorem load_misnamed (path : String) :
    Settings.load ofMisnamed.source path
      = .ok { host := "nowhere", port := 7000, receiveBuffer := some 65536 } := by
  have hsome : (Settings.load ofMisnamed.source "").toOption
      = some { host := "nowhere", port := 7000, receiveBuffer := some 65536 } := by
    decide +kernel
  have hload : Settings.load ofMisnamed.source path = Settings.load ofMisnamed.source "" := by
    have hread : ofMisnamed.source.read path = ofMisnamed.source.read "" := rfl
    unfold Settings.load
    rw [hread]
  rw [hload]
  generalize Settings.load ofMisnamed.source "" = result at hsome
  cases result with
  | error e => cases hsome
  | ok s => exact congrArg _ (Option.some.inj hsome)

/-- It is not valid, and a listener with it fails for its host; but one that is asked for another
host is opened there, at the port of the file and with the receive buffer of the file. -/
theorem listen_and_validate_of_misnamed :
    (ofMisnamed.perform {} (.validate "a.toml")).notices
        = [.settingsInvalid "a.toml" (.invalidHost "nowhere")]
      ∧ (∃ e, (ofMisnamed.perform {} (.listen { config := some "a.toml" })).ending
        = .failure (.settings e))
      ∧ ∃ s, Task.ofCommand ofMisnamed.source
          (some (.listen { config := some "a.toml", host := some "127.0.0.1" })) = .listen s
        ∧ s.receiveBuffer = some 65536
        ∧ s.OpensAt ⟨.v4 ⟨127, 0, 0, 1⟩, 7000, 0⟩ s.policy := by
  obtain ⟨-, hruns, hvalid, -, hfault⟩ := listen_and_validate ofMisnamed {}
  have hname : IpAddress.parse? "127.0.0.1".toList = some (.v4 ⟨127, 0, 0, 1⟩) := by
    decide +kernel
  obtain ⟨hending, hnotices, -⟩ := hfault "a.toml" _ "127.0.0.1" _
    { config := some "a.toml", host := some "127.0.0.1" } (load_misnamed _) rfl rfl rfl hname
  obtain ⟨s, hs, hhost, hport, -, hbuffer, -, hopens⟩ :=
    hruns { config := some "a.toml", host := some "127.0.0.1" } _ (load_misnamed _)
  refine ⟨hnotices, Classical.not_forall_not.mp fun hsettings => ?_, s, hs, hbuffer, hopens _ ?_⟩
  · have hsuccess := (hvalid { config := some "a.toml" } "a.toml" rfl rfl).mpr hsettings
    rw [hending] at hsuccess
    cases hsuccess
  · unfold Settings.bindAddress
    rw [hhost, hport, Option.getD_some, hname]
    rfl

end Host

end PeerTelemetry
