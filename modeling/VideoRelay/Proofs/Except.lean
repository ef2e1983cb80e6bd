set_option autoImplicit false

namespace VideoRelay

variable {A B Cause Fault : Type}

@[simp]
theorem mapError_ok (describe : Cause -> Fault) (value : A) :
    (Except.ok value).mapError describe = .ok value := rfl

@[simp]
theorem mapError_error (describe : Cause -> Fault) (cause : Cause) :
    (Except.error cause : Except Cause A).mapError describe = .error (describe cause) := rfl

theorem ok_of_bind {first : Except Fault A} {goOn : A -> Except Fault B} {result : B}
    (bound : first.bind goOn = .ok result) : exists value, first = .ok value /\ goOn value = .ok result := by
  cases first with
  | ok value => exact ⟨value, rfl, bound⟩
  | error fault => cases bound

theorem error_of_bind {first : Except Fault A} {goOn : A -> Except Fault B} {fault : Fault}
    (failed : first.bind goOn = .error fault) :
    first = .error fault \/ exists value, first = .ok value /\ goOn value = .error fault := by
  cases first with
  | ok value => exact .inr ⟨value, rfl, failed⟩
  | error cause => cases failed; exact .inl rfl

theorem ok_of_map {first : Except Fault A} {change : A -> B} {result : B} (mapped : first.map change = .ok result) :
    exists value, first = .ok value /\ change value = result := by
  cases first with
  | ok value => cases mapped; exact ⟨value, rfl, rfl⟩
  | error fault => cases mapped

theorem error_of_map {first : Except Fault A} {change : A -> B} {fault : Fault} (failed : first.map change = .error fault) :
    first = .error fault := by
  cases first with
  | ok value => cases failed
  | error cause => cases failed; rfl

theorem ok_of_mapError {first : Except Cause A} {describe : Cause -> Fault} {result : A}
    (mapped : first.mapError describe = .ok result) : first = .ok result := by
  cases first with
  | ok value => cases mapped; rfl
  | error cause => cases mapped

theorem error_of_mapError {first : Except Cause A} {describe : Cause -> Fault} {fault : Fault}
    (failed : first.mapError describe = .error fault) : exists cause, first = .error cause /\ fault = describe cause := by
  cases first with
  | ok value => cases failed
  | error cause => cases failed; exact ⟨cause, rfl, rfl⟩

theorem ok_of_toOption {result : Except Fault A} {value : A} (read : result.toOption = some value) :
    result = .ok value := by
  cases result with
  | ok other => cases read; rfl
  | error fault => cases read

theorem mapM_eq_some_iff {read : A -> Option B} {items : List A} {results : List B} :
    items.mapM read = some results <-> items.map read = results.map some := by
  induction items generalizing results with
  | nil => cases results <;> simp
  | cons item rest ih =>
    cases results with
    | nil => simp [List.mapM_cons, Option.bind_eq_some_iff]
    | cons result results => simp [List.mapM_cons, Option.bind_eq_some_iff, ih]

theorem isSome_of_mapM {read : A -> Option B} {items : List A} {results : List B}
    (all : items.mapM read = some results) (item : A) (member : item ∈ items) : (read item).isSome = true := by
  have image := List.mem_map_of_mem (f := read) member
  rw [mapM_eq_some_iff.1 all] at image
  obtain ⟨result, -, found⟩ := List.mem_map.1 image
  rw [<- found]
  rfl

theorem eq_map_of_mapM {read : A -> Option B} {write : B -> A} {items : List A} {results : List B}
    (written : forall item result, read item = some result -> write result = item)
    (all : items.mapM read = some results) : items = results.map write := by
  induction items generalizing results with
  | nil => cases all; rfl
  | cons item rest ih =>
    simp only [List.mapM_cons, Option.bind_eq_bind, Option.bind_eq_some_iff] at all
    obtain ⟨result, first, others, behind, ⟨⟩⟩ := all
    rw [List.map_cons, written item result first, <- ih behind]

end VideoRelay
