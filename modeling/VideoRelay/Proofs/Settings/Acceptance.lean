import VideoRelay.Proofs.Address
import VideoRelay.Settings.Problems

set_option autoImplicit false

namespace VideoRelay.Settings

def Problem.address? : Problem -> Option String
  | addressMissing field | addressInvalid field _ => some field
  | portZero | thumbnailEmpty | unknownLevel _ | unknownFormat _ => none

theorem addressProblems_eq_nil_iff (field raw : String) :
    addressProblems field raw = [] <-> exists address, Address.parse raw = .ok address := by
  rw [addressProblems]
  split
  next blank => simp [Address.parse_of_blank blank]
  next =>
    split
    next address parsed => exact iff_of_true rfl ⟨address, parsed⟩
    next fault refused => simp [refused]

theorem address?_of_mem {field raw : String} {problem : Problem} (member : problem ∈ addressProblems field raw) :
    problem.address? = some field := by
  rw [addressProblems] at member
  split at member
  next =>
    rw [List.mem_singleton.1 member]
    rfl
  next =>
    split at member
    next => cases member
    next =>
      rw [List.mem_singleton.1 member]
      rfl

theorem addressProblems_of_unnamed {field raw : String} {problems : List Problem}
    (among : forall problem, problem ∈ addressProblems field raw -> problem ∈ problems)
    (unnamed : forall problem, problem ∈ problems -> problem.address? = none) : addressProblems field raw = [] := by
  refine List.eq_nil_iff_forall_not_mem.2 fun problem member => ?_
  cases (address?_of_mem member).symm.trans (unnamed problem (among problem member))

theorem resolve_ok_iff {backends : BackendSettings} : (exists resolved, backends.resolve = .ok resolved) <->
    (exists storage, Address.parse backends.storageAddress = .ok storage) /\
      exists encoder, Address.parse backends.encoderAddress = .ok encoder := by
  constructor
  next =>
    rintro ⟨resolved, found⟩
    rw [BackendSettings.resolve] at found
    obtain ⟨storage, first, found⟩ := ok_of_bind found
    obtain ⟨encoder, second, -⟩ := ok_of_bind found
    exact ⟨⟨storage, first⟩, encoder, second⟩
  next =>
    rintro ⟨⟨storage, first⟩, encoder, second⟩
    refine ⟨{ storage, encoder, connectTimeoutMillis := backends.connectTimeoutMillis }, ?_⟩
    rw [BackendSettings.resolve, first, second]
    rfl

theorem resolve_ok_iff_unnamed (settings : Settings) : (exists backends, settings.backends.resolve = .ok backends) <->
    forall problem, problem ∈ settings.problems -> problem.address? = none := by
  rw [resolve_ok_iff, <- addressProblems_eq_nil_iff storageField, <- addressProblems_eq_nil_iff encoderField]
  constructor
  next =>
    rintro ⟨storage, encoder⟩ problem member
    simp only [problems, storage, encoder, List.append_nil, List.mem_append, mem_problemIf] at member
    -- What is left are the problems of other settings.
    rcases member with ((⟨-, rfl⟩ | ⟨-, rfl⟩) | ⟨-, rfl⟩) | ⟨-, rfl⟩ <;> rfl
  next =>
    intro unnamed
    constructor
    next => exact addressProblems_of_unnamed (fun problem member => by simp [problems, member]) unnamed
    next => exact addressProblems_of_unnamed (fun problem member => by simp [problems, member]) unnamed

theorem isNormal_of_resolve {backends : BackendSettings} {resolved : Backends} (found : backends.resolve = .ok resolved) :
    resolved.storage.host.IsNormal /\ resolved.encoder.host.IsNormal := by
  rw [BackendSettings.resolve] at found
  obtain ⟨storage, first, found⟩ := ok_of_bind found
  obtain ⟨encoder, second, found⟩ := ok_of_bind found
  cases found
  exact ⟨Address.isNormal_of_parse first, Address.isNormal_of_parse second⟩

/-- The services of accepted settings are known, and the host of each has the usual form. But the characters that a
target may hold are fewer than those of a host, and nobody compares them before something is sent. Hosts are ASCII,
without labels that start with `xn--`, as `Host.parse` reads them. -/
theorem accepted_targets (settings : Settings) :
    ((exists backends, settings.backends.resolve = .ok backends) <->
      forall problem, problem ∈ settings.problems -> problem.address? = none) /\
    (settings.problems = [] -> exists backends, settings.backends.resolve = .ok backends /\
      forall address, address = backends.storage \/ address = backends.encoder -> address.host.IsNormal /\
        (address.secure = false -> ((exists target, address.target = .ok target) <-> address.IsDialable))) := by
  refine ⟨resolve_ok_iff_unnamed settings, fun accepted => ?_⟩
  obtain ⟨backends, found⟩ := (resolve_ok_iff_unnamed settings).2 (by simp [accepted])
  obtain ⟨storage, encoder⟩ := isNormal_of_resolve found
  refine ⟨backends, found, ?_⟩
  rintro address (rfl | rfl)
  next => exact ⟨storage, fun _ => Address.target_ok_iff_isDialable _⟩
  next => exact ⟨encoder, fun _ => Address.target_ok_iff_isDialable _⟩

def relaySettings : Settings where
  backends := { storageAddress := "http://Vault:50051", encoderAddress := "http://[::1]:50052/" }

theorem relaySettings_targets : exists backends, relaySettings.backends.resolve = .ok backends /\
    (exists target, backends.storage.target = .ok target) /\ exists target, backends.encoder.target = .ok target := by
  have accepted : relaySettings.problems = [] := by decide +kernel
  obtain ⟨backends, found, dialable⟩ := (accepted_targets relaySettings).2 accepted
  have known : relaySettings.backends.resolve.toOption = some
      { storage := { host := .domain "vault".toList, port := some 50051, secure := false }
        encoder := { host := .ipv6 ⟨[0, 0, 0, 0, 0, 0, 0, 1], rfl⟩, port := some 50052, secure := false }
        connectTimeoutMillis := 10000 } := by decide +kernel
  cases found.symm.trans (ok_of_toOption known)
  refine ⟨_, found, ?_, ?_⟩
  next => exact ((dialable _ (.inl rfl)).2 rfl).2 (by decide +kernel)
  next => exact ((dialable _ (.inr rfl)).2 rfl).2 trivial

def bracedSettings : Settings where
  backends := { storageAddress := "http://vau\x7blt:50051", encoderAddress := "http://encoder:50052" }

theorem bracedSettings_undialable : ¬ forall settings : Settings, settings.problems = [] ->
    exists backends, settings.backends.resolve = .ok backends /\
      forall address, address = backends.storage \/ address = backends.encoder -> address.secure = false ->
        exists target, address.target = .ok target := by
  intro always
  obtain ⟨backends, found, dialable⟩ := always bracedSettings (by decide +kernel)
  have known : bracedSettings.backends.resolve.toOption = some
      { storage := { host := .domain "vau\x7blt".toList, port := some 50051, secure := false }
        encoder := { host := .domain "encoder".toList, port := some 50052, secure := false }
        connectTimeoutMillis := 10000 } := by decide +kernel
  cases found.symm.trans (ok_of_toOption known)
  have fit := (Address.target_ok_iff_isDialable _).1 (dialable _ (.inl rfl) rfl)
  exact absurd fit (by decide +kernel)

end VideoRelay.Settings
