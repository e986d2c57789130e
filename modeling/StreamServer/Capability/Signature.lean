import StreamServer.Shared.ByteText

set_option autoImplicit false

namespace StreamServer.Capability

inductive InputVideoCodec where
  | h264 | hevc | av1 | vp9 | mpeg2 | vc1 | otherProbed
deriving DecidableEq, Repr

inductive OutputVideoCodec where
  | h264 | hevc | av1
deriving DecidableEq, Repr

inductive SampleEntry where
  | avc1 | avc3 | hvc1 | hev1 | av01 | vp09 | mp4a | otherProbed | unknown
deriving DecidableEq, Repr

inductive VideoProfile where
  | h264Baseline | h264Main | h264High | h264High10 | hevcMain | hevcMain10 | av1Main
  | vp9Profile0 | vp9Profile2 | mpeg2Main | vc1Advanced | otherProbed | unknown
deriving DecidableEq, Repr

inductive PixelFormat where
  | yuv420p | yuv420p10le | yuv420p12le | yuv422p | yuv422p10le | yuv422p12le
  | yuv444p | yuv444p10le | yuv444p12le | nv12 | p010le | gray8 | gray10le | otherProbed | unknown
deriving DecidableEq, Repr

inductive ChromaSubsampling where
  | cs420 | cs422 | cs444 | monochrome | unknown
deriving DecidableEq, Repr

inductive FieldOrder where
  | progressive | topFirst | bottomFirst | interlaced | unknown
deriving DecidableEq, Repr

inductive ColorPrimaries where
  | bt709 | bt2020 | smpte170m | smpte432 | otherProbed | unknown
deriving DecidableEq, Repr

inductive ColorTransfer where
  | bt709 | smpte2084 | aribStdB67 | iec6196621 | otherProbed | unknown
deriving DecidableEq, Repr

inductive ColorMatrix where
  | bt709 | bt2020Nc | bt2020C | smpte170m | rgb | otherProbed | unknown
deriving DecidableEq, Repr

inductive ColorRange where
  | limited | full | otherProbed | unknown
deriving DecidableEq, Repr

inductive BackendKind where
  | amf | cuda | d3d11va | nvenc | qsv | vaapi | videoToolbox | v4l2m2m
deriving DecidableEq, Repr, Ord

inductive FrameRateClass where
  | constant | variable | unknown
deriving DecidableEq, Repr

inductive BitDepth where
  | eight | ten | twelve
deriving DecidableEq, Repr

inductive CodecLevel where
  | l20 | l21 | l30 | l31 | l40 | l41 | l42 | l50 | l51 | l52 | l60 | l61 | l62
  | mpeg2Low | mpeg2Main | mpeg2High1440 | mpeg2High | vc1Low | vc1Medium | vc1High
deriving DecidableEq, Repr

inductive HdrMode where
  | sdr | hdr10 | hlg | dolbyVision
deriving DecidableEq, Repr

inductive CodedDimensionBucket where
  | upTo480 | upTo576 | upTo640 | upTo720 | upTo1080 | upTo1280 | upTo1440 | upTo1920
  | upTo2160 | upTo2560 | upTo3840 | upTo4096 | upTo4320 | upTo7680 | upTo8192
deriving DecidableEq, Repr

inductive FrameRateBucket where
  | upTo24 | upTo25 | upTo30 | upTo50 | upTo60 | upTo120 | upTo144 | upTo240
deriving DecidableEq, Repr

inductive RequiredTransform where
  | scale | deinterlace | rotate90 | rotate180 | rotate270 | toneMap | subtitleBurnIn | pixelFormat
deriving DecidableEq, Repr, Ord

inductive RequiredTransfer where
  | upload | download | hardwareMap
deriving DecidableEq, Repr, Ord

inductive RequiredFilter where
  | format | scale | deinterlace | toneMap | subtitles | hardwareUpload | hardwareDownload
  | hardwareMap
deriving DecidableEq, Repr, Ord

inductive OutputContainerContract where
  | mpegTsHls | fmp4Hls | mpegTsStream | matroska | movMp4
deriving DecidableEq, Repr

inductive BoundaryAlgorithmVersion where
  | v1 | v2
deriving DecidableEq, Repr

inductive KeyValidationError where
  | inconsistentSegmentation
  | invalidDirectionFields
  | nonFiniteSignature
  | tooManyRequirements
  | unsupportedDimension
  | unsupportedFrameRate
deriving DecidableEq, Repr

-- `RationalRate::new` rejects a zero numerator and divides by the common divisor.
structure RationalRate where
  numerator : UInt32
  denominator : UInt32
  numeratorNonzero : numerator ≠ 0
  denominatorNonzero : denominator ≠ 0
  reduced : Nat.gcd numerator.toNat denominator.toNat = 1
deriving DecidableEq, Repr

structure NonZeroU32 where
  number : UInt32
  nonzero : number ≠ 0
deriving DecidableEq, Repr

inductive KeyframeStrategy where
  | fixedGop (frames : NonZeroU32)
  | timeForced (segmentDurationMs : NonZeroU32)
deriving DecidableEq, Repr

structure ResolutionBucket where
  width : CodedDimensionBucket
  height : CodedDimensionBucket
deriving DecidableEq, Repr

structure ColorSignature where
  range : ColorRange
  primaries : ColorPrimaries
  transfer : ColorTransfer
  matrix : ColorMatrix
  hdr : HdrMode
deriving DecidableEq, Repr

structure InputVideoSignature where
  codec : InputVideoCodec
  profile : VideoProfile
  level : CodecLevel
  pixelFormat : PixelFormat
  bitDepth : BitDepth
  chroma : ChromaSubsampling
  color : ColorSignature
  fieldOrder : FieldOrder
  resolution : ResolutionBucket
  frameRate : FrameRateBucket
  frameRateClass : FrameRateClass
deriving DecidableEq, Repr

structure OutputVideoSignature where
  codec : OutputVideoCodec
  profile : VideoProfile
  level : CodecLevel
  pixelFormat : PixelFormat
  bitDepth : BitDepth
  chroma : ChromaSubsampling
  color : ColorSignature
  resolution : ResolutionBucket
  frameRate : FrameRateBucket
  frameRateClass : FrameRateClass
deriving DecidableEq, Repr

structure PipelineRequirements where
  transforms : List RequiredTransform
  transfers : List RequiredTransfer
  filters : List RequiredFilter
  container : Option OutputContainerContract
  outputTimeBase : Option RationalRate
deriving DecidableEq, Repr

structure SegmentationContract where
  exactFrameRate : RationalRate
  frameRateClass : FrameRateClass
  segmentDurationMs : NonZeroU32
  outputTimeBase : RationalRate
  keyframeStrategy : KeyframeStrategy
deriving DecidableEq, Repr

/-- The digests of a source stay in memory. -/
structure CopyRemuxSignature where
  sourceVersion : UInt64
  selectedStreams : Bytes
  sourceSignature : Bytes
  sourceCodec : InputVideoCodec
  sourceColor : ColorSignature
  sampleEntry : SampleEntry
  container : OutputContainerContract
  boundaryAlgorithm : BoundaryAlgorithmVersion
deriving DecidableEq, Repr

def PixelFormat.inferredBitDepth : PixelFormat → Option Nat
  | .yuv420p | .yuv422p | .yuv444p | .nv12 | .gray8 => some 8
  | .yuv420p10le | .yuv422p10le | .yuv444p10le | .p010le | .gray10le => some 10
  | .yuv420p12le | .yuv422p12le | .yuv444p12le => some 12
  | .otherProbed | .unknown => none

def PixelFormat.chroma : PixelFormat → ChromaSubsampling
  | .yuv420p | .yuv420p10le | .yuv420p12le | .nv12 | .p010le => .cs420
  | .yuv422p | .yuv422p10le | .yuv422p12le => .cs422
  | .yuv444p | .yuv444p10le | .yuv444p12le => .cs444
  | .gray8 | .gray10le => .monochrome
  | .otherProbed | .unknown => .unknown

def BitDepth.value : BitDepth → Nat
  | .eight => 8
  | .ten => 10
  | .twelve => 12

def numericLevel : CodecLevel → Bool
  | .l20 | .l21 | .l30 | .l31 | .l40 | .l41 | .l42 | .l50 | .l51 | .l52 | .l60 | .l61 | .l62 => true
  | _ => false

def inputLevelMatches (codec : InputVideoCodec) (level : CodecLevel) : Bool :=
  match codec with
  | .h264 | .hevc | .av1 | .vp9 => numericLevel level
  | .mpeg2 => level ∈ [CodecLevel.mpeg2Low, .mpeg2Main, .mpeg2High1440, .mpeg2High]
  | .vc1 => level ∈ [CodecLevel.vc1Low, .vc1Medium, .vc1High]
  | .otherProbed => false

def outputLevelMatches (codec : OutputVideoCodec) (level : CodecLevel) : Bool :=
  codec ∈ [OutputVideoCodec.h264, .hevc, .av1] && numericLevel level

def profileDepthMatches (profile : VideoProfile) (bitDepth : BitDepth) : Bool :=
  match profile with
  | .h264Baseline | .h264Main | .h264High | .hevcMain | .vp9Profile0 | .mpeg2Main | .vc1Advanced =>
      bitDepth = .eight
  | .h264High10 | .hevcMain10 => bitDepth = .ten
  | .av1Main => bitDepth ∈ [BitDepth.eight, .ten, .twelve]
  | .vp9Profile2 => bitDepth ∈ [BitDepth.ten, .twelve]
  | .otherProbed | .unknown => false

def inputProfileMatches (codec : InputVideoCodec) (profile : VideoProfile) : Bool :=
  match codec with
  | .h264 => profile ∈ [VideoProfile.h264Baseline, .h264Main, .h264High, .h264High10]
  | .hevc => profile ∈ [VideoProfile.hevcMain, .hevcMain10]
  | .av1 => profile = .av1Main
  | .vp9 => profile ∈ [VideoProfile.vp9Profile0, .vp9Profile2]
  | .mpeg2 => profile = .mpeg2Main
  | .vc1 => profile = .vc1Advanced
  | .otherProbed => false

def outputProfileMatches (codec : OutputVideoCodec) (profile : VideoProfile) : Bool :=
  match codec with
  | .h264 => profile ∈ [VideoProfile.h264Baseline, .h264Main, .h264High, .h264High10]
  | .hevc => profile ∈ [VideoProfile.hevcMain, .hevcMain10]
  | .av1 => profile = .av1Main

def pixelMatches (pixelFormat : PixelFormat) (bitDepth : BitDepth) (chroma : ChromaSubsampling) :
    Bool :=
  pixelFormat.inferredBitDepth = some bitDepth.value && pixelFormat.chroma = chroma &&
    chroma ≠ .unknown

def validateInputVideo (input : InputVideoSignature) : Except KeyValidationError Unit :=
  if input.codec = .otherProbed || !inputProfileMatches input.codec input.profile ||
      !inputLevelMatches input.codec input.level ||
      !profileDepthMatches input.profile input.bitDepth ||
      !pixelMatches input.pixelFormat input.bitDepth input.chroma then
    .error .nonFiniteSignature
  else .ok ()

def validateOutputVideo (output : OutputVideoSignature) : Except KeyValidationError Unit :=
  if !outputProfileMatches output.codec output.profile ||
      !outputLevelMatches output.codec output.level ||
      !profileDepthMatches output.profile output.bitDepth ||
      !pixelMatches output.pixelFormat output.bitDepth output.chroma then
    .error .nonFiniteSignature
  else .ok ()

def validateColor (color : ColorSignature) : Except KeyValidationError Unit :=
  if color.range = .otherProbed || color.primaries = .otherProbed ||
      color.transfer = .otherProbed || color.matrix = .otherProbed then
    .error .nonFiniteSignature
  else .ok ()

def maxRequirementItems : Nat := 16

def increasing {A : Type} [Ord A] (values : List A) : Bool :=
  (values.zip values.tail).all fun pair => compare pair.1 pair.2 == .lt

def transformFilters : List (RequiredTransform × RequiredFilter) :=
  [(.scale, .scale), (.deinterlace, .deinterlace), (.toneMap, .toneMap),
    (.subtitleBurnIn, .subtitles), (.pixelFormat, .format)]

def transferFilters : List (RequiredTransfer × RequiredFilter) :=
  [(.upload, .hardwareUpload), (.download, .hardwareDownload), (.hardwareMap, .hardwareMap)]

def validateRequirements (requirements : PipelineRequirements) : Except KeyValidationError Unit :=
  if requirements.transforms.length > maxRequirementItems ||
      requirements.transfers.length > maxRequirementItems ||
      requirements.filters.length > maxRequirementItems ||
      !increasing requirements.transforms || !increasing requirements.transfers ||
      !increasing requirements.filters then
    .error .nonFiniteSignature
  else if transformFilters.any (fun pair =>
      requirements.transforms.contains pair.1 && !requirements.filters.contains pair.2) then
    .error .invalidDirectionFields
  else if transferFilters.any (fun pair =>
      requirements.transfers.contains pair.1 && !requirements.filters.contains pair.2) then
    .error .invalidDirectionFields
  else .ok ()

theorem validateRequirements_bounded {requirements : PipelineRequirements}
    (valid : validateRequirements requirements = .ok ()) :
    requirements.transforms.length ≤ maxRequirementItems ∧
      requirements.transfers.length ≤ maxRequirementItems ∧
      requirements.filters.length ≤ maxRequirementItems := by
  unfold validateRequirements at valid
  split at valid
  next => cases valid
  next inside =>
    simp only [Bool.or_eq_true, decide_eq_true_eq, not_or, Nat.not_lt, gt_iff_lt] at inside
    exact ⟨inside.1.1.1.1.1, inside.1.1.1.1.2, inside.1.1.1.2⟩

end StreamServer.Capability
