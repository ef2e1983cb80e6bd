import VideoRelay.Launch
import VideoRelay.Proofs.ListenAddress
import VideoRelay.Proofs.Settings.Acceptance

set_option autoImplicit false

namespace VideoRelay.Launch

open Settings

theorem prepare_of_resolve {settings : Settings} {backends : Backends}
    (found : settings.backends.resolve = .ok backends) : (prepare settings).2 =
      match ListenAddress.parse? settings.httpAddress with
      | some address => .ok address
      | none => .error (invalidAddress settings.httpAddress) := by
  rw [prepare, found]
  cases ListenAddress.parse? settings.httpAddress <;> rfl

/-- Nobody looks at the host before the program would listen. Settings that have no problem end there if their host
is not numeric. -/
theorem accepted_listening (settings : Settings) :
    (forall host, { settings with server := { settings.server with host } }.problems = settings.problems) /\
    (settings.problems = [] ->
      (forall address, (prepare settings).2 = .ok address <->
        ListenAddress.OfHost settings.server.httpPort settings.server.host.toList address) /\
      ((¬ exists address, ListenAddress.OfHost settings.server.httpPort settings.server.host.toList address) ->
        (prepare settings).2 = .error (invalidAddress settings.httpAddress))) := by
  refine ⟨fun host => rfl, fun accepted => ?_⟩
  obtain ⟨backends, found⟩ := (resolve_ok_iff_unnamed settings).2 (by simp [accepted])
  have named (address : ListenAddress) : ListenAddress.parse? settings.httpAddress = some address <->
      ListenAddress.OfHost settings.server.httpPort settings.server.host.toList address := ListenAddress.parse?_iff
  rw [prepare_of_resolve found]
  simp only [<- named]
  cases ListenAddress.parse? settings.httpAddress with
  | none => simp
  | some address => simp

def scopedSettings : Settings where
  server := { host := "[fe80::1%3]", httpPort := 9000 }
  backends := { storageAddress := "http://vault:50051", encoderAddress := "https://encoder" }

def namedSettings : Settings where
  server := { host := "localhost" }
  backends := { storageAddress := "http://vault:50051", encoderAddress := "http://encoder:50052" }

theorem scoped_and_named_hosts :
    (prepare scopedSettings).2 = .ok (.ipv6 ⟨[0xfe80, 0, 0, 0, 0, 0, 0, 1], rfl⟩ 3 9000) /\
    (prepare namedSettings).2 =
      .error "Invalid HTTP address 'localhost:8080': invalid socket address syntax" := by
  constructor
  next =>
    have accepted : scopedSettings.problems = [] := by decide +kernel
    have link : Ipv6.parse? "fe80::1".toList = some ⟨[0xfe80, 0, 0, 0, 0, 0, 0, 1], rfl⟩ := by decide +kernel
    have number : Decimal.wholeNumber? ['3'] = some 3 := by decide
    exact (((accepted_listening scopedSettings).2 accepted).1 _).2 (.ipv6Within link number (by decide))
  next =>
    have accepted : namedSettings.problems = [] := by decide +kernel
    have missing : ListenAddress.parse? namedSettings.httpAddress = none := by decide +kernel
    have text : invalidAddress namedSettings.httpAddress =
        "Invalid HTTP address 'localhost:8080': invalid socket address syntax" := by decide +kernel
    rw [((accepted_listening namedSettings).2 accepted).2, text]
    rintro ⟨address, named⟩
    cases missing.symm.trans (ListenAddress.parse?_iff.2 named)

theorem namedSettings_unheard : ¬ forall settings : Settings, settings.problems = [] ->
    exists address, ListenAddress.parse? settings.httpAddress = some address := by
  intro always
  obtain ⟨address, found⟩ := always namedSettings (by decide +kernel)
  have missing : ListenAddress.parse? namedSettings.httpAddress = none := by decide +kernel
  cases found.symm.trans missing

end VideoRelay.Launch
