import VideoRelay.Upload

set_option autoImplicit false

namespace VideoRelay

open Wire

def byteCount (payloads : List Bytes) : Nat :=
  payloads.flatten.length

def datagramsFrom (offset : Nat) : List Bytes -> List Datagram
  | [] => []
  | payload :: rest => { offset := .ofNat offset, payload } :: datagramsFrom (offset + payload.length) rest

def upload (totalLength : UInt64) (presetId : String) (payloads : List Bytes) : List EncodeVideoRequest :=
  if payloads = [] then []
  else uploadHeader totalLength presetId :: (datagramsFrom 0 payloads).map .datagram

@[simp]
theorem byteCount_append (first more : List Bytes) :
    byteCount (first ++ more) = byteCount first + byteCount more := by
  simp [byteCount]

@[simp]
theorem byteCount_single (payload : Bytes) : byteCount [payload] = payload.length := by
  simp [byteCount]

theorem byteCount_eq_zero {payloads : List Bytes} :
    byteCount payloads = 0 <-> forall payload, payload ∈ payloads -> payload = [] := by
  rw [byteCount, List.length_eq_zero_iff, List.flatten_eq_nil_iff]

theorem datagramsFrom_append (offset : Nat) (first more : List Bytes) :
    datagramsFrom offset (first ++ more) =
      datagramsFrom offset first ++ datagramsFrom (offset + byteCount first) more := by
  induction first generalizing offset with
  | nil => simp [datagramsFrom, byteCount]
  | cons payload rest ih => simp [datagramsFrom, ih, byteCount, Nat.add_assoc]

theorem datagramsFrom_payloads (offset : Nat) (payloads : List Bytes) :
    (datagramsFrom offset payloads).map Datagram.payload = payloads := by
  induction payloads generalizing offset with
  | nil => rfl
  | cons payload rest ih => simp [datagramsFrom, ih]

theorem datagramsFrom_offset {start : Nat} {payloads : List Bytes}
    (bounded : start + byteCount payloads < UInt64.size) {index : Nat} {datagram : Datagram}
    (found : (datagramsFrom start payloads)[index]? = some datagram) :
    datagram.offset.toNat = start + byteCount (payloads.take index) := by
  induction payloads generalizing start index with
  | nil => simp [datagramsFrom] at found
  | cons payload rest ih =>
    have total : byteCount (payload :: rest) = payload.length + byteCount rest := by simp [byteCount]
    rw [total] at bounded
    cases index with
    | zero =>
      simp only [datagramsFrom, List.getElem?_cons_zero, Option.some.injEq] at found
      subst found
      have small : start < UInt64.size := by omega
      simpa [byteCount] using UInt64.toNat_ofNat_of_lt' small
    | succ index =>
      simp only [datagramsFrom, List.getElem?_cons_succ] at found
      rw [ih (by omega) found]
      simp [byteCount, Nat.add_assoc]

variable (totalLength : UInt64) (presetId : String)

@[simp]
theorem upload_nil : upload totalLength presetId [] = [] := rfl

theorem upload_append {first : List Bytes} (begun : first ≠ []) (more : List Bytes) :
    upload totalLength presetId (first ++ more) =
      upload totalLength presetId first ++ (datagramsFrom (byteCount first) more).map .datagram := by
  simp [upload, begun, datagramsFrom_append]

theorem upload_mono {first whole : List Bytes} (beginning : first <+: whole) :
    upload totalLength presetId first <+: upload totalLength presetId whole := by
  obtain ⟨more, rfl⟩ := beginning
  by_cases begun : first = []
  next => rw [begun]; exact List.nil_prefix
  next => rw [upload_append totalLength presetId begun]; exact List.prefix_append _ _

theorem RunningOffset.advance_eq {counter : RunningOffset} {counted : List Bytes}
    (counts : counter.total = .ofNat (byteCount counted)) (payload : Bytes) :
    counter.advance payload.length =
      (.ofNat (byteCount counted), { total := .ofNat (byteCount (counted ++ [payload])) }) := by
  simp [advance, counts, UInt64.ofNat_add]

end VideoRelay
