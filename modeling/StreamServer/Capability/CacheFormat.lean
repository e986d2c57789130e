import StreamServer.Capability.CacheLoading

set_option autoImplicit false

namespace StreamServer.Capability

theorem evidence_cache_round_trips (json : SerdeJson) (runtime : RuntimeEvidenceId) :
    (∀ records now later bytes, encodeEvidenceCache json runtime records now = .ok bytes →
      json.ReadsBack bytes → now.wall.milliseconds ≤ later.wall.milliseconds →
      (∀ key record, records.lookup key = some record → record.UnexpiredAt later) →
        ∃ decoded, decodeEvidenceCache json bytes runtime later = .ok decoded ∧
          ∀ key, (decoded.lookup key).map EvidenceRecord.durable =
            ((records.lookup key).filter EvidenceRecord.kept).map EvidenceRecord.durable) ∧
    (∀ bytes now decoded, decodeEvidenceCache json bytes runtime now = .ok decoded →
      decoded.keys.Nodup ∧
      (∃ document, json.fromSlice bytes = some document ∧
        decoded.keys.length = document.records.length) ∧
      ∀ key record, decoded.lookup key = some record →
        record.key = key ∧ record.validate now = .ok () ∧ key.isValid = true ∧
          key.runtime = runtime) := by
  refine ⟨?_, ?_⟩
  · intro records now later bytes encoded readsBack clock lives
    exact decode_of_encode encoded readsBack clock lives
  · intro bytes now decoded read
    obtain ⟨sound, written⟩ := decode_sound read
    refine ⟨decoded.nodupKeys, written, fun key record present => ?_⟩
    exact ⟨sound.key key record present, sound.valid key record present, key.isValid_eq_true,
      sound.runtime key record present⟩

section Concrete

def plainRuntime : RuntimeEvidenceId := ⟨⟨List.replicate 32 0x11, rfl⟩⟩

def plainDriver : DriverIdentity := ⟨⟨List.replicate 32 0x55, rfl⟩, true⟩

def plainDevice : DeviceId := ⟨utf8 "gpu1_REREREREREREREREREREREREREQ"⟩

def plainColor : ColorSignature := ⟨.limited, .bt709, .bt709, .bt709, .sdr⟩

def plainInput : InputVideoSignature where
  codec := .h264
  profile := .h264High
  level := .l41
  pixelFormat := .yuv420p
  bitDepth := .eight
  chroma := .cs420
  color := plainColor
  fieldOrder := .progressive
  resolution := ⟨.upTo1920, .upTo1080⟩
  frameRate := .upTo60
  frameRateClass := .constant

def plainRequirements : PipelineRequirements :=
  ⟨[.scale], [.hardwareMap], [.scale, .hardwareMap], none, none⟩

def plainKey : CapabilityKey where
  versions := KeyVersions.forDirection .decode
  runtime := plainRuntime
  device := plainDevice
  driver := plainDriver
  backend := .qsv
  operation := .decode plainInput plainRequirements
  current := rfl
  validated := by decide

def clockStart : StateNow := ⟨⟨0, by decide⟩, 0, by decide⟩

def passedRecord : EvidenceRecord :=
  { EvidenceRecord.new plainKey with
    correctness := some ⟨.correctness, .correctnessPassed, ⟨0, by decide⟩, 100,
      ⟨86400000, by decide⟩, 86400000⟩ }

def singleEntry (record : EvidenceRecord) : EvidenceMap := AList.singleton plainKey record

def jsonOf (document : EvidenceCacheDocument) (text : Bytes) : SerdeJson where
  toWriter written := if written = document then text else []
  fromSlice bytes := if bytes = text then some document else none

theorem jsonOf_fromSlice (document : EvidenceCacheDocument) (text : Bytes) :
    (jsonOf document text).fromSlice text = some document :=
  if_pos rfl

theorem jsonOf_readsBack {document : EvidenceCacheDocument} {text : Bytes} (nonempty : text ≠ []) :
    (jsonOf document text).ReadsBack text := by
  intro written same
  have chosen : (if written = document then text else []) = text := same
  split at chosen
  next equal => rw [jsonOf_fromSlice, equal]
  next => exact absurd chosen.symm nonempty

def emptyText : Bytes := utf8 (
    "\x7b\"schemaVersion\":1,\"evidenceVersion\":1,\"writerServerVersion\":\"0.1.8\"," ++
    "\"writtenAt\":0," ++
    "\"runtimeId\":\"1111111111111111111111111111111111111111111111111111111111111111\"," ++
    "\"records\":[]\x7d")

def passedText : Bytes := utf8 (
    "\x7b\"schemaVersion\":1,\"evidenceVersion\":1,\"writerServerVersion\":\"0.1.8\"," ++
    "\"writtenAt\":0," ++
    "\"runtimeId\":\"1111111111111111111111111111111111111111111111111111111111111111\"," ++
    "\"records\":[\x7b\"key\":\x7b\"schemaVersion\":1,\"evidenceVersion\":1," ++
    "\"recipeVersion\":1," ++
    "\"runtimeId\":\"1111111111111111111111111111111111111111111111111111111111111111\"," ++
    "\"deviceId\":\"gpu1_REREREREREREREREREREREREREQ\"," ++
    "\"driverId\":\"5555555555555555555555555555555555555555555555555555555555555555\"," ++
    "\"backend\":\"qsv\",\"operation\":\x7b\"direction\":\"decode\"," ++
    "\"input\":\x7b\"codec\":\"h264\",\"profile\":\"h264High\",\"level\":\"l41\"," ++
    "\"pixelFormat\":\"yuv420p\",\"bitDepth\":\"eight\",\"chroma\":\"cs420\"," ++
    "\"color\":\x7b\"range\":\"limited\",\"primaries\":\"bt709\",\"transfer\":\"bt709\"," ++
    "\"matrix\":\"bt709\",\"hdr\":\"sdr\"\x7d,\"fieldOrder\":\"progressive\"," ++
    "\"resolution\":\x7b\"width\":\"upTo1920\",\"height\":\"upTo1080\"\x7d," ++
    "\"frameRate\":\"upTo60\",\"frameRateClass\":\"constant\"\x7d," ++
    "\"requirements\":\x7b\"transforms\":[\"scale\"],\"transfers\":[\"hardwareMap\"]," ++
    "\"filters\":[\"scale\",\"hardwareMap\"],\"container\":null," ++
    "\"outputTimeBase\":null\x7d\x7d\x7d,\"correctness\":\x7b\"target\":\"correctness\"," ++
    "\"outcome\":\"correctnessPassed\",\"observedAt\":0,\"durationMs\":100," ++
    "\"expiresAt\":86400000\x7d,\"realtime\":null,\"segmented\":null,\"terminal\":null," ++
    "\"failureHistory\":null\x7d]\x7d")

def passedDocument : EvidenceCacheDocument :=
  cacheDocument plainRuntime clockStart (PersistedEvidenceRecord.fromRecord passedRecord).toList

theorem passed_record_is_restored :
    encodeEvidenceCache (jsonOf passedDocument passedText) plainRuntime (singleEntry passedRecord)
        clockStart = .ok passedText ∧
      ∃ decoded, decodeEvidenceCache (jsonOf passedDocument passedText) passedText plainRuntime
        clockStart = .ok decoded ∧
          (decoded.lookup plainKey).map EvidenceRecord.durable = some passedRecord.durable := by
  have encoded : encodeEvidenceCache (jsonOf passedDocument passedText) plainRuntime
      (singleEntry passedRecord) clockStart = .ok passedText := by
    decide +kernel
  have lives : ∀ key record, (singleEntry passedRecord).lookup key = some record →
      record.UnexpiredAt clockStart := by
    intro key record present
    have same : record = passedRecord := by
      have member := AList.mem_lookup_iff.mp present
      exact eq_of_heq (Sigma.mk.inj (List.mem_singleton.mp member)).2
    subst same
    constructor <;> simp [passedRecord, EvidenceRecord.new, LivesAt, clockStart]
  obtain ⟨decoded, read, looked⟩ :=
    (evidence_cache_round_trips (jsonOf passedDocument passedText) plainRuntime).1 _ _ clockStart _
      encoded (jsonOf_readsBack (by decide +kernel)) (Nat.le_refl _) lives
  refine ⟨encoded, decoded, read, ?_⟩
  rw [looked plainKey]
  rfl

def emptyDocument : EvidenceCacheDocument := cacheDocument plainRuntime clockStart []

-- The record has a persistable key and nothing to keep.
theorem record_without_evidence_is_lost :
    ¬ ∀ (json : SerdeJson) (runtime : RuntimeEvidenceId) (records : EvidenceMap)
      (now later : StateNow) (bytes : Bytes),
      encodeEvidenceCache json runtime records now = .ok bytes → json.ReadsBack bytes →
      now.wall.milliseconds ≤ later.wall.milliseconds →
      (∀ key record, records.lookup key = some record → record.UnexpiredAt later) →
        ∃ decoded, decodeEvidenceCache json bytes runtime later = .ok decoded ∧
          ∀ key, (decoded.lookup key).map EvidenceRecord.durable =
            ((records.lookup key).filter fun record => record.key.Persistable).map
              EvidenceRecord.durable := by
  intro claim
  have lives : ∀ key record, (singleEntry (EvidenceRecord.new plainKey)).lookup key = some record →
      record.UnexpiredAt clockStart := by
    intro key record present
    have same : record = EvidenceRecord.new plainKey := by
      have member := AList.mem_lookup_iff.mp present
      exact eq_of_heq (Sigma.mk.inj (List.mem_singleton.mp member)).2
    subst same
    constructor <;> simp [EvidenceRecord.new]
  have encoded : encodeEvidenceCache (jsonOf emptyDocument emptyText) plainRuntime
      (singleEntry (EvidenceRecord.new plainKey)) clockStart = .ok emptyText := by
    decide +kernel
  obtain ⟨decoded, read, looked⟩ := claim (jsonOf emptyDocument emptyText) plainRuntime _
    clockStart clockStart emptyText encoded (jsonOf_readsBack (by decide +kernel)) (Nat.le_refl _)
    lives
  obtain ⟨_, document, parsed, length⟩ := decode_sound read
  rw [jsonOf_fromSlice] at parsed
  obtain rfl : emptyDocument = document := Option.some.inj parsed
  have nothing : decoded.lookup plainKey = none := by
    rw [AList.lookup_eq_none, AList.mem_keys, List.eq_nil_of_length_eq_zero length]
    exact List.not_mem_nil
  have lost := looked plainKey
  rw [nothing] at lost
  revert lost
  decide +kernel

end Concrete

end StreamServer.Capability
