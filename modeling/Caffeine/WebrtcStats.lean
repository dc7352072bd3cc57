/-
# The statistics that are uploaded

`serializeWebrtcStats` of `src/Serialization.cpp` builds one object for each report of a
whitelisted type: it appends the header and then writes the whitelisted statistics of the
report into the last element of the array.  A statistic that holds an id is left out.

WebRTC's part is a parameter: its names of the statistics and of the report types, and its
floating-point types.
-/
import Mathlib.Data.List.AList
import Mathlib.Data.List.Forall2
import Mathlib.Data.List.ModifyLast
import Mathlib.Data.Rat.Defs
import Caffeine.Library.Members
import Caffeine.Types

namespace Caff

/-! ## Reports -/

/-- `webrtc::StatsReport::StatsType`, as far as it is told apart. -/
inductive StatsType
  | ssrc
  | bwe
  | other (id : ℕ)
  deriving DecidableEq, Repr

/-- `webrtc::StatsReport::StatsValueName`, as far as it is told apart. -/
inductive StatsValueName
  -- standard common
  | bytesSent
  | mediaType
  | packetsLost
  | packetsSent
  -- goog prefixed common
  | encodeUsagePercent
  | avgEncodeMs
  | rtt
  | nacksReceived
  -- video
  | frameRateInput
  | frameRateSent
  | frameHeightInput
  | frameHeightSent
  | frameWidthInput
  | frameWidthSent
  | cpuLimitedResolution
  | firsReceived
  -- audio
  | audioInputLevel
  -- videobwe stats
  | availableSendBandwidth
  | targetEncBitrate
  | actualEncBitrate
  | transmitBitrate
  | other (id : ℕ)
  deriving DecidableEq, Repr

/-- `webrtc::StatsReport::Value`, by its type. -/
inductive StatValue (Single : Type)
  | bool (val : Bool)
  | float (val : Single)
  | id
  | int (val : ℤ)
  | int64 (val : ℤ)
  | staticString (val : Bytes)
  | string (val : Bytes)
  deriving DecidableEq, Repr

/-- A report.  Its values are a map from their names, gone through in the order of the
names. -/
structure StatsReport (Single Double : Type) where
  type : StatsType
  timestamp : Double
  values : AList fun _ : StatsValueName => StatValue Single

/-- What the serialisation takes from WebRTC and from the floating-point types. -/
structure Webrtc (Single Double : Type) where
  displayName : StatsValueName → String
  typeToString : StatsType → Bytes
  toDouble : Single → Double

/-! ## Objects -/

/-- The values of members. -/
inductive StatJson (Double : Type)
  | boolean (val : Bool)
  | numberInteger (val : ℤ)
  | numberFloat (val : Double)
  | string (val : Bytes)
  deriving DecidableEq, Repr

/-- A JSON object, with one member for a key. -/
abbrev StatObject (Double : Type) := Finmap fun _ : String => StatJson Double

variable {Single Double : Type}

def timestampKey : String := "caffeineUnixTimestamp"

def reportTypeKey : String := "caffeineReportType"

/-! ## The functions -/

/-- `isWhitelistedReportType`. -/
def isWhitelistedReportType : StatsType → Bool
  | .ssrc | .bwe => true
  | _ => false

/-- `isWhitelistedStat`. -/
def isWhitelistedStat : StatsValueName → Bool
  | .bytesSent | .mediaType | .packetsLost | .packetsSent
  | .encodeUsagePercent | .avgEncodeMs | .rtt | .nacksReceived
  | .frameRateInput | .frameRateSent | .frameHeightInput | .frameHeightSent
  | .frameWidthInput | .frameWidthSent | .cpuLimitedResolution | .firsReceived
  | .audioInputLevel
  | .availableSendBandwidth | .targetEncBitrate | .actualEncBitrate | .transmitBitrate => true
  | _ => false

/-- `addStat`: a number by its type, a string as a text, anything else not at all. -/
def addStat (w : Webrtc Single Double) (json : StatObject Double) (name : StatsValueName) :
    StatValue Single → StatObject Double
  | .bool val => json.insert (w.displayName name) (.boolean val)
  | .float val => json.insert (w.displayName name) (.numberFloat (w.toDouble val))
  | .id => json  -- logged
  | .int val => json.insert (w.displayName name) (.numberInteger val)
  | .int64 val => json.insert (w.displayName name) (.numberInteger val)
  | .staticString val => json.insert (w.displayName name) (.string val)
  | .string val => json.insert (w.displayName name) (.string val)

/-- The object that is pushed for a report. -/
def statsHeader (w : Webrtc Single Double) (report : StatsReport Single Double) :
    StatObject Double :=
  ((∅ : StatObject Double).insert timestampKey (.numberFloat report.timestamp)).insert
    reportTypeKey (.string (w.typeToString report.type))

/-- The loop over the values of a report, into the last element. -/
def addStats (w : Webrtc Single Double) (serialized : List (StatObject Double))
    (entries : List (Σ _ : StatsValueName, StatValue Single)) : List (StatObject Double) :=
  entries.foldl (fun serialized entry =>
    if isWhitelistedStat entry.1 then
      serialized.modifyLast fun back => addStat w back entry.1 entry.2
    else serialized) serialized

/-- The body of the loop over the reports. -/
def serializeReport (w : Webrtc Single Double) (serialized : List (StatObject Double))
    (report : StatsReport Single Double) : List (StatObject Double) :=
  if isWhitelistedReportType report.type then
    addStats w (serialized ++ [statsHeader w report]) report.values.entries
  else serialized

/-- `serializeWebrtcStats`. -/
def serializeWebrtcStats (w : Webrtc Single Double)
    (reports : List (StatsReport Single Double)) : List (StatObject Double) :=
  reports.foldl (serializeReport w) []

/-! ## What is uploaded -/

/-- The names of the whitelisted statistics are different, and none is a key of the header. -/
structure Webrtc.NamesDiffer (w : Webrtc Single Double) : Prop where
  injective : ∀ name name', isWhitelistedStat name = true → isWhitelistedStat name' = true →
    w.displayName name = w.displayName name' → name = name'
  notTimestamp : ∀ name, isWhitelistedStat name = true → w.displayName name ≠ timestampKey
  notReportType : ∀ name, isWhitelistedStat name = true → w.displayName name ≠ reportTypeKey

/-- The value as a member, if it is not an id. -/
def StatValue.member (w : Webrtc Single Double) : StatValue Single → Option (StatJson Double)
  | .bool val => some (.boolean val)
  | .float val => some (.numberFloat (w.toDouble val))
  | .id => none
  | .int val => some (.numberInteger val)
  | .int64 val => some (.numberInteger val)
  | .staticString val => some (.string val)
  | .string val => some (.string val)

/-- The object has the two members of the header, and beside them exactly the whitelisted
statistics of the report that are no ids, with their values. -/
structure Describes (w : Webrtc Single Double) (report : StatsReport Single Double)
    (object : StatObject Double) : Prop where
  timestamp : object.lookup timestampKey = some (.numberFloat report.timestamp)
  reportType : object.lookup reportTypeKey = some (.string (w.typeToString report.type))
  stats : ∀ key, key ≠ timestampKey → key ≠ reportTypeKey → ∀ json,
    object.lookup key = some json ↔
      ∃ name value, isWhitelistedStat name = true ∧ w.displayName name = key ∧
        report.values.lookup name = some value ∧ value.member w = some json

/-- The reports agree on their headers and on the whitelisted statistics. -/
structure SameUpload (report report' : StatsReport Single Double) : Prop where
  type : report.type = report'.type
  timestamp : report.timestamp = report'.timestamp
  values : ∀ name, isWhitelistedStat name = true →
    report.values.lookup name = report'.values.lookup name

/-- The statistics that are uploaded. -/
def uploadedStats : List StatsValueName :=
  [.bytesSent, .mediaType, .packetsLost, .packetsSent,
    .encodeUsagePercent, .avgEncodeMs, .rtt, .nacksReceived,
    .frameRateInput, .frameRateSent, .frameHeightInput, .frameHeightSent,
    .frameWidthInput, .frameWidthSent, .cpuLimitedResolution, .firsReceived,
    .audioInputLevel,
    .availableSendBandwidth, .targetEncBitrate, .actualEncBitrate, .transmitBitrate]

/-- The reports whose type is whitelisted. -/
def whitelisted (reports : List (StatsReport Single Double)) : List (StatsReport Single Double) :=
  reports.filter fun report => isWhitelistedReportType report.type

/-- The member that an entry of a report gives. -/
def entryMember (w : Webrtc Single Double) (entry : Σ _ : StatsValueName, StatValue Single) :
    Option (String × StatJson Double) :=
  if isWhitelistedStat entry.1 then
    (entry.2.member w).map fun json => (w.displayName entry.1, json)
  else none

/-- The object of a report. -/
def reportObject (w : Webrtc Single Double) (report : StatsReport Single Double) :
    StatObject Double :=
  Members.insertAll (entryMember w) (statsHeader w report) report.values.entries

section

variable {w : Webrtc Single Double} {report report' : StatsReport Single Double}
  {reports : List (StatsReport Single Double)} {serialized : List (StatObject Double)}
  {object object' : StatObject Double} {entry : Σ _ : StatsValueName, StatValue Single}
  {entries : List (Σ _ : StatsValueName, StatValue Single)} {key : String}
  {json : StatJson Double}

/-! ### The loops -/

/-- A whitelisted statistic writes the member that its entry gives, -/
theorem addStat_eq (h : isWhitelistedStat entry.1 = true) :
    addStat w object entry.1 entry.2 = Members.insert (entryMember w) object entry := by
  unfold Members.insert entryMember
  rw [if_pos h]
  obtain ⟨name, value⟩ := entry
  cases value <;> rfl

/-- and the other entries give none. -/
theorem insert_eq_of_not_whitelisted (h : ¬ isWhitelistedStat entry.1 = true) :
    Members.insert (entryMember w) object entry = object := by
  unfold Members.insert entryMember
  rw [if_neg h]

/-- The loop over the values touches the last element only. -/
theorem addStats_concat :
    addStats w (serialized ++ [object]) entries =
      serialized ++ [Members.insertAll (entryMember w) object entries] := by
  induction entries generalizing object with
  | nil => rfl
  | cons entry entries ih =>
      show addStats w (if isWhitelistedStat entry.1 then _ else _) entries = _
      have hentry : (if isWhitelistedStat entry.1 = true then
          (serialized ++ [object]).modifyLast fun back => addStat w back entry.1 entry.2
          else serialized ++ [object]) =
            serialized ++ [Members.insert (entryMember w) object entry] := by
        by_cases h : isWhitelistedStat entry.1 = true
        · rw [if_pos h, List.modifyLast_concat, addStat_eq h]
        · rw [if_neg h, insert_eq_of_not_whitelisted h]
      rw [hentry, ih]
      rfl

theorem whitelisted_cons : whitelisted (report :: reports) =
    if isWhitelistedReportType report.type then report :: whitelisted reports
    else whitelisted reports := List.filter_cons

/-- **One object for each whitelisted report**, in order. -/
theorem foldl_serializeReport :
    reports.foldl (serializeReport w) serialized =
      serialized ++ (whitelisted reports).map (reportObject w) := by
  induction reports generalizing serialized with
  | nil => exact (List.append_nil serialized).symm
  | cons report reports ih =>
      rw [List.foldl_cons, ih, whitelisted_cons]
      unfold serializeReport
      by_cases h : isWhitelistedReportType report.type = true
      · rw [if_pos h, if_pos h, addStats_concat, List.map_cons, List.append_assoc]
        rfl
      · rw [if_neg h, if_neg h]

theorem serializeWebrtcStats_eq :
    serializeWebrtcStats w reports = (whitelisted reports).map (reportObject w) := by
  unfold serializeWebrtcStats
  rw [foldl_serializeReport, List.nil_append]

/-! ### The objects -/

theorem entryMember_eq_some_iff : entryMember w entry = some (key, json) ↔
    isWhitelistedStat entry.1 = true ∧ w.displayName entry.1 = key ∧
      entry.2.member w = some json := by
  unfold entryMember
  by_cases h : isWhitelistedStat entry.1 = true
  · rw [if_pos h]
    rcases entry.2.member w with _ | json'
    · simp
    · simp [h]
  · rw [if_neg h]
    simp [h]

/-- No statistic gives a member of the header, -/
theorem entryMember_ne_header (h : w.NamesDiffer)
    (hkey : key = timestampKey ∨ key = reportTypeKey) :
    entryMember w entry ≠ some (key, json) := by
  intro hentry
  obtain ⟨hwhitelisted, hname, -⟩ := entryMember_eq_some_iff.mp hentry
  rcases hkey with rfl | rfl
  · exact h.notTimestamp entry.1 hwhitelisted hname
  · exact h.notReportType entry.1 hwhitelisted hname

/-- and no two of a report give members of one key. -/
theorem distinct_entries (h : w.NamesDiffer) (report : StatsReport Single Double) :
    Members.Distinct (entryMember w) report.values.entries := by
  have hkeys := List.nodupKeys_iff_pairwise.mp report.values.nodupKeys
  apply hkeys.imp
  intro entry entry' hne key json json' hentry hentry'
  obtain ⟨hwhitelisted, hname, -⟩ := entryMember_eq_some_iff.mp hentry
  obtain ⟨hwhitelisted', hname', -⟩ := entryMember_eq_some_iff.mp hentry'
  exact hne (h.injective _ _ hwhitelisted hwhitelisted' (hname.trans hname'.symm))

theorem lookup_statsHeader_of_ne (htimestamp : key ≠ timestampKey)
    (hreportType : key ≠ reportTypeKey) : (statsHeader w report).lookup key = none := by
  unfold statsHeader
  rw [Finmap.lookup_insert_of_ne _ hreportType, Finmap.lookup_insert_of_ne _ htimestamp]
  exact Finmap.lookup_empty key

/-- The object of a report describes it. -/
theorem describes_reportObject (h : w.NamesDiffer) (report : StatsReport Single Double) :
    Describes w report (reportObject w report) := by
  constructor
  · unfold reportObject
    rw [Members.lookup_insertAll_of_ne fun _ _ _ => entryMember_ne_header h (.inl rfl)]
    unfold statsHeader
    rw [Finmap.lookup_insert_of_ne _ (by decide), Finmap.lookup_insert]
  · unfold reportObject
    rw [Members.lookup_insertAll_of_ne fun _ _ _ => entryMember_ne_header h (.inr rfl)]
    exact Finmap.lookup_insert _
  · intro key htimestamp hreportType json
    unfold reportObject
    rw [Members.lookup_insertAll_iff (distinct_entries h report)
      (lookup_statsHeader_of_ne htimestamp hreportType)]
    constructor
    · rintro ⟨⟨name, value⟩, hmem, hentry⟩
      obtain ⟨hwhitelisted, hname, hvalue⟩ := entryMember_eq_some_iff.mp hentry
      exact ⟨name, value, hwhitelisted, hname, AList.mem_lookup_iff.mpr hmem, hvalue⟩
    · rintro ⟨name, value, hwhitelisted, hname, hlookup, hvalue⟩
      exact ⟨⟨name, value⟩, AList.mem_lookup_iff.mp hlookup,
        entryMember_eq_some_iff.mpr ⟨hwhitelisted, hname, hvalue⟩⟩

/-- A description leaves no choice, and depends on nothing else. -/
theorem Describes.unique (h : Describes w report object) (h' : Describes w report' object')
    (hsame : SameUpload report report') : object = object' := by
  apply Finmap.ext_lookup
  intro key
  by_cases htimestamp : key = timestampKey
  · rw [htimestamp, h.timestamp, h'.timestamp, hsame.timestamp]
  · by_cases hreportType : key = reportTypeKey
    · rw [hreportType, h.reportType, h'.reportType, hsame.type]
    · apply Option.ext
      intro json
      show object.lookup key = some json ↔ object'.lookup key = some json
      rw [h.stats key htimestamp hreportType, h'.stats key htimestamp hreportType]
      constructor
      · rintro ⟨name, value, hwhitelisted, hname, hlookup, hvalue⟩
        rw [hsame.values name hwhitelisted] at hlookup
        exact ⟨name, value, hwhitelisted, hname, hlookup, hvalue⟩
      · rintro ⟨name, value, hwhitelisted, hname, hlookup, hvalue⟩
        rw [← hsame.values name hwhitelisted] at hlookup
        exact ⟨name, value, hwhitelisted, hname, hlookup, hvalue⟩

/-- Reports that agree have the same objects. -/
theorem map_reportObject_congr (h : w.NamesDiffer)
    {reports' : List (StatsReport Single Double)}
    (hsame : List.Forall₂ SameUpload reports reports') :
    reports.map (reportObject w) = reports'.map (reportObject w) := by
  induction hsame with
  | nil => rfl
  | cons hreport _ ih =>
      rw [List.map_cons, List.map_cons, ih,
        (describes_reportObject h _).unique (describes_reportObject h _) hreport]

/-! ### The upload -/

/-- The reports that are uploaded are those of the connections and of the bandwidth, -/
theorem isWhitelistedReportType_iff {type : StatsType} :
    isWhitelistedReportType type = true ↔ type = .ssrc ∨ type = .bwe := by
  cases type <;> simp [isWhitelistedReportType]

/-- and of the statistics it is these twenty-one. -/
theorem isWhitelistedStat_iff {name : StatsValueName} :
    isWhitelistedStat name = true ↔ name ∈ uploadedStats := by
  cases name <;> simp [isWhitelistedStat, uploadedStats]

/-- **The uploaded statistics.**  There is one object for each report of a whitelisted type,
in order, and it describes the report.  Reports that agree on what is whitelisted are
serialised alike. -/
theorem serializeWebrtcStats_describes (w : Webrtc Single Double) (h : w.NamesDiffer)
    (reports : List (StatsReport Single Double)) :
    List.Forall₂ (Describes w) (whitelisted reports) (serializeWebrtcStats w reports) ∧
      ∀ reports' : List (StatsReport Single Double),
        List.Forall₂ SameUpload (whitelisted reports) (whitelisted reports') →
        serializeWebrtcStats w reports = serializeWebrtcStats w reports' := by
  rw [serializeWebrtcStats_eq]
  constructor
  · rw [List.forall₂_map_right_iff]
    exact List.forall₂_same.mpr fun report _ => describes_reportObject h report
  · intro reports' hsame
    rw [serializeWebrtcStats_eq]
    exact map_reportObject_congr h hsame

end

/-! ### The names of WebRTC -/

/-- The display names of the statistics that are whitelisted. -/
def statNames : List (StatsValueName × String) :=
  [(.bytesSent, "bytesSent"), (.mediaType, "mediaType"), (.packetsLost, "packetsLost"),
    (.packetsSent, "packetsSent"), (.encodeUsagePercent, "googEncodeUsagePercent"),
    (.avgEncodeMs, "googAvgEncodeMs"), (.rtt, "googRtt"),
    (.nacksReceived, "googNacksReceived"), (.frameRateInput, "googFrameRateInput"),
    (.frameRateSent, "googFrameRateSent"), (.frameHeightInput, "googFrameHeightInput"),
    (.frameHeightSent, "googFrameHeightSent"), (.frameWidthInput, "googFrameWidthInput"),
    (.frameWidthSent, "googFrameWidthSent"),
    (.cpuLimitedResolution, "googCpuLimitedResolution"),
    (.firsReceived, "googFirsReceived"), (.audioInputLevel, "audioInputLevel"),
    (.availableSendBandwidth, "googAvailableSendBandwidth"),
    (.targetEncBitrate, "googTargetEncBitrate"), (.actualEncBitrate, "googActualEncBitrate"),
    (.transmitBitrate, "googTransmitBitrate")]

def namedWebrtc : Webrtc ℚ ℚ where
  displayName name := (statNames.lookup name).getD "other"
  typeToString
    | .ssrc => toBytes "ssrc"
    | .bwe => toBytes "VideoBwe"
    | .other _ => toBytes "other"
  toDouble := id

theorem mem_statNames {name : StatsValueName} (h : isWhitelistedStat name = true) :
    (name, namedWebrtc.displayName name) ∈ statNames := by
  have hall : ∀ name ∈ uploadedStats, (name, namedWebrtc.displayName name) ∈ statNames := by
    decide
  exact hall name (isWhitelistedStat_iff.mp h)

theorem namesDiffer_namedWebrtc : namedWebrtc.NamesDiffer := by
  have hnodup : (statNames.map Prod.snd).Nodup := by decide
  have hkeys : timestampKey ∉ statNames.map Prod.snd ∧ reportTypeKey ∉ statNames.map Prod.snd := by
    decide
  constructor
  · intro name name' h h' hequal
    have hpair := List.inj_on_of_nodup_map hnodup (mem_statNames h) (mem_statNames h') hequal
    exact congrArg Prod.fst hpair
  · intro name h hequal
    exact hkeys.1 (hequal ▸ List.mem_map_of_mem (mem_statNames h))
  · intro name h hequal
    exact hkeys.2 (hequal ▸ List.mem_map_of_mem (mem_statNames h))

/-- A bandwidth report of the bytes sent and of a statistic that is not whitelisted. -/
def bandwidthReport : StatsReport ℚ ℚ :=
  { type := .bwe
    timestamp := 42
    values := (AList.insert (.other 0) (.string []) ∅).insert .bytesSent (.int64 42) }

theorem serializeWebrtcStats_describes_bandwidth :
    serializeWebrtcStats namedWebrtc [bandwidthReport] =
        [(statsHeader namedWebrtc bandwidthReport).insert "bytesSent" (.numberInteger 42)] ∧
      List.Forall₂ (Describes namedWebrtc) (whitelisted [bandwidthReport])
        (serializeWebrtcStats namedWebrtc [bandwidthReport]) ∧
      ∀ reports' : List (StatsReport ℚ ℚ),
        List.Forall₂ SameUpload (whitelisted [bandwidthReport]) (whitelisted reports') →
        serializeWebrtcStats namedWebrtc [bandwidthReport] =
          serializeWebrtcStats namedWebrtc reports' :=
  ⟨rfl, serializeWebrtcStats_describes namedWebrtc namesDiffer_namedWebrtc [bandwidthReport]⟩

end Caff
