import DnsHijacker.Wire.Http

/-!
# The metrics endpoint

With `report_type = "http"` the counters are served as JSON: a connection sends the first line of a
request and gets one response, whatever follows that line.
-/

namespace DnsHijacker.Shared

open DnsHijacker.Rust
open DnsHijacker.Wire

/-! ## The source functions -/

structure MetricReport where
  totalReq : UInt64
  resolvedCount : UInt64
  failedCount : UInt64
  timeoutCount : UInt64
  redirectCount : UInt64
  dropCount : UInt64
  cachedCount : UInt64
  relayResolvedCount : UInt64
  deriving DecidableEq

namespace MetricReport

/-- The fields as `serde` names them, in their order. -/
def members (report : MetricReport) : List (Text × Nat) :=
  [("total_req".toList, report.totalReq.toNat),
    ("resolved_count".toList, report.resolvedCount.toNat),
    ("failed_count".toList, report.failedCount.toNat),
    ("timeout_count".toList, report.timeoutCount.toNat),
    ("redirect_count".toList, report.redirectCount.toNat),
    ("drop_count".toList, report.dropCount.toNat),
    ("cached_count".toList, report.cachedCount.toNat),
    ("relay_resolved_count".toList, report.relayResolvedCount.toNat)]

/-- `serde_json::to_string(&report)`; it does not fail. -/
def toJson (report : MetricReport) : Text :=
  jsonObject report.members

end MetricReport

/-- `reader.read_line` -/
def readLine (stream : Bytes) : Bytes :=
  stream.takeWhile (· ≠ 10) ++ (stream.dropWhile (· ≠ 10)).take 1

/-- The path of a request line. -/
def requestPath (requestLine : Text) : Text :=
  (splitWhitespace requestLine)[1]?.getD []

/-- The response that is written to the stream. -/
def httpResponse (statusLine contentType body : Text) : Text :=
  statusLine ++ "\r\nContent-Type: ".toList ++ contentType ++ "\r\nContent-Length: ".toList ++
    Nat.toDigits 10 (toUtf8 body).length ++ "\r\nConnection: close\r\n\r\n".toList ++ body

/-- `handle_metrics_connection`, with what the connection has sent and what `prepare_report` has read
by then; none if nothing is written. -/
def handleMetricsConnection (stream : Bytes) (report : MetricReport) : Option Text :=
  match fromUtf8 (readLine stream) with
  | none => none
  | some requestLine =>
      if requestLine = [] then none
      else
        let path := requestPath requestLine
        if path = "/metrics".toList then
          some (httpResponse "HTTP/1.1 200 OK".toList "application/json".toList report.toJson)
        else if path = "/health".toList then
          some (httpResponse "HTTP/1.1 200 Healthy".toList "text/plain".toList "ok".toList)
        else
          some (httpResponse "HTTP/1.1 404 NOT FOUND".toList "text/plain".toList "not found".toList)

/-! ## What the client reads -/

/-- A counter in an object. -/
def counterOf (members : List (Text × Nat)) (name : String) : Option UInt64 :=
  (members.lookup name.toList).bind fun value =>
    if value < UInt64.size then some (UInt64.ofNat value) else none

/-- A report, read from JSON. -/
def MetricReport.fromJson (text : Text) : Option MetricReport := do
  let (members, []) ← readObject text | none
  some {
    totalReq := ← counterOf members "total_req"
    resolvedCount := ← counterOf members "resolved_count"
    failedCount := ← counterOf members "failed_count"
    timeoutCount := ← counterOf members "timeout_count"
    redirectCount := ← counterOf members "redirect_count"
    dropCount := ← counterOf members "drop_count"
    cachedCount := ← counterOf members "cached_count"
    relayResolvedCount := ← counterOf members "relay_resolved_count" }

theorem plain_of_mem_members (report : MetricReport) : ∀ member ∈ report.members, '"' ∉ member.1 := by
  simp only [MetricReport.members, List.forall_mem_cons]
  decide

theorem bound_toNat (value : UInt64) :
    (if value.toNat < UInt64.size then some (UInt64.ofNat value.toNat) else none) = some value := by
  rw [if_pos value.toNat_lt_size, UInt64.ofNat_toNat]

theorem fromJson_toJson (report : MetricReport) :
    MetricReport.fromJson report.toJson = some report := by
  have read := readObject_jsonObject (plain_of_mem_members report) []
  rw [List.append_nil] at read
  rw [MetricReport.fromJson, MetricReport.toJson, read]
  have lookup (name : String) (value : UInt64)
      (found : report.members.lookup name.toList = some value.toNat) :
      counterOf report.members name = some value := by
    rw [counterOf, found]
    exact bound_toNat value
  simp only [Option.bind_eq_bind, Option.bind_some, lookup "total_req" report.totalReq rfl,
    lookup "resolved_count" report.resolvedCount rfl, lookup "failed_count" report.failedCount rfl,
    lookup "timeout_count" report.timeoutCount rfl, lookup "redirect_count" report.redirectCount rfl,
    lookup "drop_count" report.dropCount rfl, lookup "cached_count" report.cachedCount rfl,
    lookup "relay_resolved_count" report.relayResolvedCount rfl]

/-- A response is read as it was meant. -/
theorem readResponse_httpResponse {statusLine contentType : Text} (nonempty : statusLine ≠ [])
    (oneLine : '\n' ∉ statusLine) (oneType : '\n' ∉ contentType) (body : Text) :
    readResponse (httpResponse statusLine contentType body) = some ⟨statusLine, contentType, body⟩ := by
  let length := Nat.toDigits 10 (toUtf8 body).length
  let lines := [statusLine, "Content-Type: ".toList ++ contentType, "Content-Length: ".toList ++ length,
    "Connection: close".toList]
  have written : httpResponse statusLine contentType body = lines.flatMap (· ++ crlf) ++ crlf ++ body := by
    simp [httpResponse, lines, crlf, length]
  have oneLength : '\n' ∉ length := by
    intro mem
    have digit := Nat.isDigit_of_mem_toDigits (by decide) (by decide) mem
    contradiction
  have head : readHead (httpResponse statusLine contentType body).length
      (httpResponse statusLine contentType body) = some (lines, body) := by
    rw [written]
    apply readHead_written
    · simp [lines, nonempty]
    · simp [lines, oneLine, oneType, oneLength]
    · simp [lines, crlf]
      omega
  have typed : headerValue "Content-Type".toList lines.tail = some contentType := by
    simp [headerValue, lines, stripPrefix]
  have sized : headerValue "Content-Length".toList lines.tail = some length := by
    simp [headerValue, lines, stripPrefix]
  have number := readNat_toDigits (toUtf8 body).length endsNumber_nil
  rw [List.append_nil] at number
  rw [readResponse, head]
  simp only [lines, List.tail_cons] at typed sized
  simp only [lines, typed, sized, Option.bind_some, length, number, if_pos]

/-! ## What the endpoint serves -/

/-- The line with which a client asks for a path. -/
def requestLine (method path version : Text) : Text :=
  method ++ ' ' :: (path ++ ' ' :: (version ++ crlf))

theorem newline_not_mem_toUtf8 {text : Text} (oneLine : '\n' ∉ text) : 10 ∉ toUtf8 text := by
  intro mem
  obtain ⟨c, here, encoded⟩ := List.mem_flatMap.mp mem
  have code := toNat_eq_of_mem_utf8EncodeChar encoded (by decide)
  have newline : c = '\n' := Char.ext (UInt32.toNat_inj.mp code)
  exact oneLine (newline ▸ here)

/-- The first line of a stream, with its end. -/
theorem readLine_append {line : Text} (oneLine : '\n' ∉ line) (rest : Bytes) :
    readLine (toUtf8 (line ++ ['\n']) ++ rest) = toUtf8 (line ++ ['\n']) := by
  have others : ∀ byte ∈ toUtf8 line, decide (byte ≠ 10) = true := by
    intro byte mem
    rw [decide_eq_true_iff]
    rintro rfl
    exact newline_not_mem_toUtf8 oneLine mem
  have ended : toUtf8 (line ++ ['\n']) = toUtf8 line ++ [10] := by
    rw [toUtf8, List.flatMap_append]
    rfl
  rw [ended, readLine, List.append_assoc, List.takeWhile_append_of_pos others,
    List.dropWhile_append_of_pos others]
  simp

theorem newline_not_mem_word {word : Text} (isWord : IsWord word) : '\n' ∉ word := by
  intro mem
  have visible := isWord.2 '\n' mem
  contradiction

theorem splitWhitespace_word {word : Text} (isWord : IsWord word) (rest : Text) :
    splitWhitespace (word ++ ' ' :: rest) = word :: splitWhitespace rest := by
  rw [splitWhitespace, List.splitOnP_append_cons_of_forall_mem isWord.2 ' ' rfl,
    List.filter_cons_of_pos (by simpa using isWord.1), splitWhitespace]

theorem requestPath_requestLine {method path : Text} (isMethod : IsWord method)
    (isPath : IsWord path) (version : Text) : requestPath (requestLine method path version) = path := by
  rw [requestPath, requestLine, splitWhitespace_word isMethod, splitWhitespace_word isPath]
  rfl

theorem handleMetricsConnection_eq_none_iff {stream : Bytes} {report : MetricReport} :
    handleMetricsConnection stream report = none ↔
      stream = [] ∨ fromUtf8 (readLine stream) = none := by
  have empty : fromUtf8 (readLine stream) = some [] ↔ stream = [] := by
    rw [fromUtf8_eq_some_nil_iff, readLine]
    cases stream with
    | nil => exact iff_of_true rfl rfl
    | cons byte rest => by_cases newline : byte = 10 <;> simp [newline]
  rw [handleMetricsConnection, ← empty]
  cases decoded : fromUtf8 (readLine stream) with
  | none => simp
  | some requestLine =>
      dsimp only
      split
      · rename_i nothing
        simp [nothing]
      · rename_i something
        split <;> [skip; split] <;> simp [something]

/-- What a path is answered with. -/
def Serves (path : Text) (report : MetricReport) (reply : HttpReply) : Prop :=
  if path = "/metrics".toList then
    reply.statusLine = "HTTP/1.1 200 OK".toList ∧ reply.contentType = "application/json".toList ∧
      MetricReport.fromJson reply.body = some report
  else if path = "/health".toList then
    reply = ⟨"HTTP/1.1 200 Healthy".toList, "text/plain".toList, "ok".toList⟩
  else reply = ⟨"HTTP/1.1 404 NOT FOUND".toList, "text/plain".toList, "not found".toList⟩

theorem handleMetricsConnection_serves {stream : Bytes} {line : Text}
    (decoded : fromUtf8 (readLine stream) = some line) (nonempty : line ≠ [])
    (report : MetricReport) :
    ∃ text reply, handleMetricsConnection stream report = some text ∧
      readResponse text = some reply ∧ Serves (requestPath line) report reply := by
  rw [handleMetricsConnection, decoded]
  simp only [if_neg nonempty, Serves]
  split
  · exact ⟨_, _, rfl, readResponse_httpResponse (by decide) (by decide) (by decide) _, rfl, rfl,
      fromJson_toJson report⟩
  · split
    · exact ⟨_, _, rfl, readResponse_httpResponse (by decide) (by decide) (by decide) _, rfl⟩
    · exact ⟨_, _, rfl, readResponse_httpResponse (by decide) (by decide) (by decide) _, rfl⟩

/-- The endpoint answers every stream but an empty one and one whose first line is not UTF-8, with a
response that a client can read.  A client that asks for `/metrics` reads exactly the report, whatever
else its request has. -/
theorem metrics_served (report : MetricReport) :
    (∀ stream, (∃ text, handleMetricsConnection stream report = some text) ↔
      stream ≠ [] ∧ ∃ line, fromUtf8 (readLine stream) = some line) ∧
    (∀ stream text, handleMetricsConnection stream report = some text →
      ∃ reply, readResponse text = some reply) ∧
    ∀ method path version : Text, IsWord method → IsWord path → IsWord version → ∀ rest : Bytes,
      ∃ text reply,
        handleMetricsConnection (toUtf8 (requestLine method path version) ++ rest) report = some text ∧
        readResponse text = some reply ∧ Serves path report reply := by
  refine ⟨fun stream => ?_, fun stream text written => ?_, ?_⟩
  · rw [← Option.ne_none_iff_exists', ← Option.ne_none_iff_exists', ne_eq,
      handleMetricsConnection_eq_none_iff, not_or]
  · cases decoded : fromUtf8 (readLine stream) with
    | none =>
        rw [handleMetricsConnection, decoded] at written
        contradiction
    | some line =>
        by_cases nonempty : line = []
        · rw [handleMetricsConnection, decoded, nonempty] at written
          contradiction
        · obtain ⟨other, reply, here, read, _⟩ :=
            handleMetricsConnection_serves decoded nonempty report
          cases written.symm.trans here
          exact ⟨reply, read⟩
  · intro method path version isMethod isPath isVersion rest
    let front := method ++ ' ' :: (path ++ ' ' :: (version ++ ['\r']))
    have split : requestLine method path version = front ++ ['\n'] := by simp [requestLine, crlf, front]
    have oneLine : '\n' ∉ front := by
      simp [front, newline_not_mem_word isMethod, newline_not_mem_word isPath,
        newline_not_mem_word isVersion]
    have decoded : fromUtf8 (readLine (toUtf8 (requestLine method path version) ++ rest)) =
        some (requestLine method path version) := by
      rw [split, readLine_append oneLine, fromUtf8_toUtf8]
    have nonempty : requestLine method path version ≠ [] := by
      rw [split]
      exact List.concat_ne_nil _ _
    have serves := handleMetricsConnection_serves decoded nonempty report
    rwa [requestPath_requestLine isMethod isPath version] at serves

theorem metrics_served_get : ∃ text reply,
    handleMetricsConnection (toUtf8 (requestLine "GET".toList "/metrics".toList "HTTP/1.1".toList) ++
      toUtf8 "Host: localhost".toList) ⟨3, 1, 0, 1, 0, 1, 0, 0⟩ = some text ∧
    readResponse text = some reply ∧
    MetricReport.fromJson reply.body = some ⟨3, 1, 0, 1, 0, 1, 0, 0⟩ := by
  obtain ⟨_, _, answers⟩ := metrics_served ⟨3, 1, 0, 1, 0, 1, 0, 0⟩
  obtain ⟨text, reply, written, read, serves⟩ := answers "GET".toList "/metrics".toList
    "HTTP/1.1".toList (by decide) (by decide) (by decide) (toUtf8 "Host: localhost".toList)
  rw [Serves, if_pos rfl] at serves
  exact ⟨text, reply, written, read, serves.2.2⟩

end DnsHijacker.Shared
