import JBCenter.Dispatch.Authority
import JBCenter.Gateway.Ranges

/-! The gateway's answers: from an object that the disk cache holds, and from the upstream gateways where it holds none. -/
namespace JBCenter.Gateway
open Rest (isDigit digitsValue splitParts)
open Dispatch (isWhitespace)

/-- `PIN_LIMITS.gateway`. -/
def gatewayLimit : Nat := 524288000

inductive Method where
  | get
  | head
  deriving DecidableEq

structure Request where
  method : Method
  range : Option Text
  ifRange : Option Text
  ifNoneMatch : Option Text

/-- An upstream's answer; its body is decoded, in the chunks that it comes in. -/
structure Reply where
  status : Nat
  contentEncoding : Option Text
  contentLength : Option Text
  contentRange : Option Text
  body : List (List UInt8)

/-- The body of an answer: all of it, what was sent of it before it broke off, or the report of a failure. -/
inductive Body where
  | bytes (content : List UInt8)
  | broken (sent : List UInt8) (message : String)
  | error (code message : String)
  deriving DecidableEq

structure Response where
  status : Nat
  contentLength : Option Nat
  contentRange : Option Text
  body : Body
  deriving DecidableEq

def failure (status : Nat) (code message : String) : Response := ⟨status, none, none, .error code message⟩

def noContent : Body := .bytes []

def ok (status : Nat) : Bool := 200 ≤ status && status < 300

def trim (text : Text) : Text := ((text.dropWhile isWhitespace).reverse.dropWhile isWhitespace).reverse

/-- Without the mark of a weak validator. -/
def strong : Text → Text
  | 'W' :: '/' :: rest => rest
  | text => text

def notModified (request : Request) (etag : Text) : Bool :=
  request.ifNoneMatch.any (fun value =>
    (splitParts ',' value).any (fun part => trim part == ['*'] || strong (trim part) == etag))

def regardedRange (request : Request) (etag : Text) : Option Text :=
  if request.method = .get ∧ request.ifRange.all (fun ifRange => ifRange.isEmpty || ifRange == etag) then request.range else none

def decimal (n : Nat) : Text := Nat.toDigits 10 n

def slice (content : List UInt8) (start stop : Nat) : List UInt8 := (content.drop start).take (stop - start + 1)

def cachedResponse (content : List UInt8) (request : Request) (etag : Text) : Response :=
  let size := content.length
  if notModified request etag then ⟨304, none, none, noContent⟩
  else match byteRange (regardedRange request etag) size with
  | .unsatisfiable => ⟨416, none, some ("bytes */".toList ++ decimal size), noContent⟩
  | .ignored => ⟨200, some size, none, if request.method = .head then noContent else .bytes content⟩
  | .interval start stop =>
    ⟨206, some (stop - start + 1),
      some ("bytes ".toList ++ decimal start ++ ['-'] ++ decimal stop ++ ['/'] ++ decimal size),
      if request.method = .head then noContent else .bytes (slice content start stop)⟩

def GATEWAYS : List String := ["https://ipfs.filebase.io/ipfs", "https://gateway.pinata.cloud/ipfs"]

def encoded (reply : Reply) : Bool :=
  reply.contentEncoding.any (fun encoding => !encoding.isEmpty && encoding != "identity".toList)

/-- The length that an answer declares, unless it is no safe number. -/
def declaredLength (reply : Reply) : Option (Option Nat) :=
  match if encoded reply then none else reply.contentLength with
  | none => some none
  | some raw =>
    if !raw.isEmpty && raw.all isDigit && digitsValue raw ≤ maximumPosition then some (some (digitsValue raw)) else none

/-- The length of an answer that is passed on, where there is one; other answers count as failures of the gateway. -/
def admittedLength (reply : Reply) (range : Option Text) : Option (Option Nat) := do
  let length ← declaredLength reply
  if reply.status = 206 then
    let taken ← contentRangeLength reply.contentRange length (range.getD [])
    return some taken
  else if reply.contentRange.isSome then none
  else return length

/-- The body as it is passed on, chunk by chunk: never more than the limit or than the length that goes with it, and all
of that length. -/
def streamBody (length : Option Nat) (sent : List UInt8) : List (List UInt8) → Body
  | [] => if length.any (· ≠ sent.length) then .broken sent "IPFS asset is incomplete" else .bytes sent
  | chunk :: rest =>
    let streamed := sent.length + chunk.length
    if gatewayLimit < streamed || length.any (· < streamed) then .broken sent "IPFS asset exceeded its byte limit"
    else streamBody length (sent ++ chunk) rest

/-- The status of what was read, or the failure of the last gateway that was asked. -/
def readUpstream (upstream : String → Option Text → Option Reply) (range : Option Text) (request : Request) (unchanged : Bool) :
    Nat → List String → Response
  | lastStatus, [] =>
    failure (if 400 ≤ lastStatus ∧ lastStatus < 600 then lastStatus
      else 502) "gateway_unavailable" "IPFS gateways are unavailable"
  | lastStatus, gateway :: gateways =>
    match upstream gateway range with
    | none => readUpstream upstream range request unchanged lastStatus gateways
    | some reply =>
      if !ok reply.status then readUpstream upstream range request unchanged reply.status gateways
      else if reply.status ≠ 200 ∧ ¬(range.isSome ∧ reply.status = 206) then
        readUpstream upstream range request unchanged 502 gateways
      else if reply.status = 206 ∧ encoded reply then readUpstream upstream range request unchanged 502 gateways
      else match admittedLength reply range with
      | none => readUpstream upstream range request unchanged 502 gateways
      | some length =>
        if length.any (fun length => gatewayLimit < length) then failure 413 "content_too_large" "IPFS asset is too large"
        else if unchanged || request.method = .head then
          ⟨if unchanged then 304 else reply.status, length, reply.contentRange, noContent⟩
        else ⟨reply.status, length, reply.contentRange, streamBody length [] reply.body⟩

/-- `IpfsDiskCache.fetch`: the object where another request has filled the cache by now, else what is fetched, which is
passed on as it is while it is stored. -/
def cacheFetch (filled : Option (List UInt8)) (fetched : Response) : Response :=
  match filled with
  | some content => ⟨200, some content.length, none, .bytes content⟩
  | none => fetched

def coldResponse (upstream : String → Option Text → Option Reply) (filled : Option (List UInt8)) (request : Request)
    (etag : Text) : Response :=
  let unchanged := notModified request etag
  let range := if unchanged then none else (regardedRange request etag).filter forwarded
  let fetched := readUpstream upstream range request unchanged 502 GATEWAYS
  let response := if request.method = .get ∧ range = none then cacheFetch filled fetched else fetched
  let status := if unchanged && ok response.status then 304 else response.status
  if status = 304 then ⟨304, none, none, noContent⟩ else { response with status }

/-- The answer to a request for a path, from what the cache holds of it now and, on a cold read, in the end. -/
def createIpfsGateway (upstream : String → Option Text → Option Reply) (cached filled : Option (List UInt8))
    (path : Option Text) (request : Request) : Response :=
  match path with
  | none => failure 400 "bad_request" "IPFS path is invalid"
  | some path =>
    let etag := "\"ipfs:".toList ++ path ++ ['"']
    match cached with
    | some content => cachedResponse content request etag
    | none => coldResponse upstream filled request etag

def Plain (reply : Reply) : Prop := reply.contentEncoding = none ∨ reply.contentEncoding = some "identity".toList

/-- A declared length is the length of the body. -/
def Declares (reply : Reply) : Prop :=
  ∀ raw, reply.contentLength = some raw → raw ≠ [] ∧ raw.all isDigit = true ∧ digitsValue raw = reply.body.flatten.length

structure Complete (content : List UInt8) (reply : Reply) : Prop where
  status : reply.status = 200
  plain : Plain reply
  declares : Declares reply
  noRange : reply.contentRange = none
  body : reply.body.flatten = content

/-- An interval of the object, with the size of the object or without. -/
structure Part (content : List UInt8) (start stop : Nat) (reply : Reply) : Prop where
  status : reply.status = 206
  plain : Plain reply
  declares : Declares reply
  range : ∃ total, reply.contentRange.bind contentRangeParts = some (start, stop, total) ∧
    (total = none ∨ total = some content.length)
  body : reply.body.flatten = slice content start stop

/-- A gateway that has the object and implements single ranges. A range whose last position is before its first is ignored. -/
structure Serves (content : List UInt8) (gateway : Option Text → Option Reply) : Prop where
  complete : ∃ reply, gateway none = some reply ∧ Complete content reply
  part : ∀ range first last start stop, RangeText range first last → Selects content.length first last start stop →
    ∃ reply, gateway (some range) = some reply ∧ Part content start stop reply
  unsatisfiable : ∀ range first last, RangeText range first last → Unsatisfiable content.length first last →
    ∃ reply, gateway (some range) = some reply ∧ reply.status = 416
  inverted : ∀ range first last, RangeText range first last → Inverted first last →
    ∃ reply, gateway (some range) = some reply ∧ Complete content reply

section Agreement

variable {content : List UInt8} {upstream : String → Option Text → Option Reply} {request : Request} {range : Option Text}
  {unchanged : Bool} {gateways : List String} {gateway : String} {reply : Reply} {lastStatus : Nat} {filled : Option (List UInt8)}

theorem encoded_plain (plain : Plain reply) : encoded reply = false := by
  unfold encoded
  obtain none | identity := plain
  · rw [none]; rfl
  · rw [identity]; rfl

theorem declaredLength_ok (plain : Plain reply) (declares : Declares reply) (small : reply.body.flatten.length ≤ gatewayLimit) :
    ∃ length, declaredLength reply = some length ∧ ∀ reported, length = some reported → reported = reply.body.flatten.length := by
  rw [declaredLength, encoded_plain plain, if_neg Bool.false_ne_true]
  cases declared : reply.contentLength with
  | none => exact ⟨none, rfl, nofun⟩
  | some raw =>
    obtain ⟨some, digits, value⟩ := declares raw declared
    have safe : digitsValue raw ≤ maximumPosition := by
      rw [value]
      exact Nat.le_trans small (by decide)
    refine ⟨_, if_pos ?_, fun reported same => (Option.some.inj same).symm.trans value⟩
    rw [digits, decide_eq_true safe, Bool.and_true, Bool.and_true, Bool.not_eq_eq_eq_not,
      Bool.not_true, List.isEmpty_eq_false_iff]
    exact some

/-- A body of the length that goes with it, within the limit, is passed on whole. -/
theorem streamBody_whole {length : Option Nat} {sent : List UInt8} {chunks : List (List UInt8)}
    (small : (sent ++ chunks.flatten).length ≤ gatewayLimit)
    (exact_ : ∀ reported, length = some reported → reported = (sent ++ chunks.flatten).length) :
    streamBody length sent chunks = .bytes (sent ++ chunks.flatten) := by
  induction chunks generalizing sent with
  | nil =>
    rw [List.flatten_nil, List.append_nil] at exact_ ⊢
    refine if_neg ?_
    rw [Option.any_eq_true]
    rintro ⟨reported, rfl, differs⟩
    exact of_decide_eq_true differs (exact_ reported rfl)
  | cons chunk rest ih =>
    have size : (sent ++ (chunk :: rest).flatten).length = sent.length + chunk.length + rest.flatten.length := by
      simp only [List.flatten_cons, List.length_append, Nat.add_assoc]
    have passed : ¬(decide (gatewayLimit < sent.length + chunk.length) ||
        length.any (fun length => decide (length < sent.length + chunk.length))) = true := by
      rw [Bool.or_eq_true, decide_eq_true_eq, Option.any_eq_true]
      rintro (exceeds | ⟨reported, rfl, exceeds⟩)
      · omega
      · have exceeds := of_decide_eq_true exceeds
        have reported := exact_ reported rfl
        omega
    rw [streamBody, if_neg passed, ih]
    · rw [List.flatten_cons, List.append_assoc]
    · rwa [List.append_assoc]
    · rwa [List.append_assoc]

example : streamBody (some 3) [] [[1, 2]] = .broken [1, 2] "IPFS asset is incomplete" ∧
    streamBody (some 3) [] [[1, 2], [3, 4]] = .broken [1, 2] "IPFS asset exceeded its byte limit" := by decide

theorem readUpstream_complete (asked : upstream gateway range = some reply) (complete : Complete content reply)
    (small : content.length ≤ gatewayLimit) :
    ∃ length, readUpstream upstream range request unchanged lastStatus (gateway :: gateways) =
      if unchanged || request.method = .head then ⟨if unchanged then 304 else 200, length, none, noContent⟩
      else ⟨200, length, none, .bytes content⟩ := by
  obtain ⟨length, declared, exact_⟩ := declaredLength_ok complete.plain complete.declares (complete.body ▸ small)
  have admitted : admittedLength reply range = some length := by
    rw [admittedLength, declared, complete.status, complete.noRange]
    rfl
  have within : length.any (fun length => decide (gatewayLimit < length)) = false := by
    cases length with
    | none => rfl
    | some reported =>
      rw [Option.any_some, decide_eq_false_iff_not, exact_ reported rfl, complete.body]
      exact Nat.not_lt.mpr small
  have streamed : streamBody length [] reply.body = .bytes content := by
    rw [streamBody_whole (by rwa [List.nil_append, complete.body]) exact_, List.nil_append, complete.body]
  refine ⟨length, ?_⟩
  rw [readUpstream, asked]
  dsimp only
  rw [admitted, complete.status, complete.noRange]
  dsimp only
  rw [within, streamed]
  rfl

theorem length_slice {start stop : Nat} (ordered : start ≤ stop) (inside : stop < content.length) :
    (slice content start stop).length = stop - start + 1 := by
  rw [slice, List.length_take, List.length_drop]
  omega

theorem readUpstream_part {first last : Option Nat} {start stop : Nat} {text : Text}
    (asked : upstream gateway (some text) = some reply)
    (part : Part content start stop reply) (is : RangeText text first last) (safe : Safe first last)
    (selects : Selects content.length first last start stop) (small : content.length ≤ gatewayLimit)
    (get : request.method = .get) :
    readUpstream upstream (some text) request false lastStatus (gateway :: gateways) =
      ⟨206, some (stop - start + 1), reply.contentRange, .bytes (slice content start stop)⟩ := by
  obtain ⟨ordered, inside⟩ := selects.bounds
  have size : reply.body.flatten.length = stop - start + 1 := part.body ▸ length_slice ordered inside
  have bound : stop - start + 1 ≤ gatewayLimit := by omega
  obtain ⟨length, declared, same⟩ := declaredLength_ok part.plain part.declares (size ▸ bound)
  obtain ⟨total, read, known⟩ := part.range
  have low : gatewayLimit ≤ maximumPosition := by decide
  have taken : contentRangeLength reply.contentRange length text = some (stop - start + 1) := by
    refine contentRangeLength_iff.mpr ⟨start, stop, total, read, rfl, ⟨by omega, by omega, ?_, by omega, ?_⟩, ?_⟩
    · rintro reported rfl
      obtain none | whole := known
      · cases none
      · cases whole
        exact Nat.le_trans small low
    · intro reported given
      exact (same reported given).trans size
    · obtain rfl | rfl := known
      · exact byteRange_selects is safe selects.known
      · exact byteRange_selects is safe selects
  have admitted : admittedLength reply (some text) = some (some (stop - start + 1)) := by
    have again : contentRangeLength reply.contentRange length ((some text).getD []) = some (stop - start + 1) := taken
    rw [admittedLength, declared, part.status, Option.bind_eq_bind, Option.bind_some, if_pos rfl, again]
    rfl
  have within : ¬gatewayLimit < stop - start + 1 := Nat.not_lt.mpr bound
  have streamed : streamBody (some (stop - start + 1)) [] reply.body = .bytes (slice content start stop) := by
    rw [streamBody_whole (by rwa [List.nil_append, size]) (fun _ same => (Option.some.inj same).symm.trans size.symm),
      List.nil_append, part.body]
  rw [readUpstream, asked]
  dsimp only
  rw [admitted, part.status, encoded_plain part.plain, get]
  simp only [ok, within, Option.any_some, streamed]
  rfl

theorem readUpstream_unsatisfiable (refused : ∀ gateway ∈ gateways, ∃ reply,
    upstream gateway range = some reply ∧ reply.status = 416)
    (asked : gateways ≠ [] ∨ lastStatus = 416) :
    (readUpstream upstream range request unchanged lastStatus gateways).status = 416 := by
  induction gateways generalizing lastStatus with
  | nil =>
    have last : lastStatus = 416 := asked.resolve_left (not_not_intro rfl)
    rw [last]
    rfl
  | cons gateway gateways ih =>
    obtain ⟨⟨reply, found, status⟩, refused⟩ := List.forall_mem_cons.mp refused
    have next := @ih reply.status refused (.inr status)
    rw [readUpstream, found]
    dsimp only
    rw [status] at next ⊢
    exact next

/-- The ranges that the amended agreement is about: safe positions, and no suffix of nothing. -/
def Ordinary (content : List UInt8) (request : Request) : Prop :=
  ∀ value first last, request.range = some value → RangeText value first last →
    Safe first last ∧ (content = [] → first.isSome = true ∨ last = some 0)

theorem coldResponse_ranged {etag value : Text} {response : Response} (modified : notModified request etag = false)
    (ranged : (regardedRange request etag).filter forwarded = some value)
    (read : readUpstream upstream (some value) request false 502 GATEWAYS = response) (status : response.status ≠ 304) :
    coldResponse upstream filled request etag = response := by
  rw [coldResponse, modified]
  simp only [Bool.false_eq_true, if_false, Bool.false_and, ranged, read, reduceCtorEq, and_false, if_neg status]

theorem coldResponse_complete {etag : Text} (modified : notModified request etag = false) (get : request.method = .get)
    (small : content.length ≤ gatewayLimit) (held : ∀ other, filled = some other → other = content)
    (asked : ∃ reply, upstream "https://ipfs.filebase.io/ipfs" ((regardedRange request etag).filter forwarded) = some reply ∧
      Complete content reply) :
    ∃ length, coldResponse upstream filled request etag = ⟨200, length, none, .bytes content⟩ := by
  obtain ⟨reply, asked, complete⟩ := asked
  obtain ⟨length, read⟩ := @readUpstream_complete content upstream request _ false
    ["https://gateway.pinata.cloud/ipfs"] _ reply 502
    asked complete small
  rw [get] at read
  cases ranged : (regardedRange request etag).filter forwarded with
  | some value =>
    rw [ranged] at read
    exact ⟨length, coldResponse_ranged modified ranged read (show 200 ≠ 304 by decide)⟩
  | none =>
    rw [ranged] at read
    cases filled with
    | none =>
      refine ⟨length, ?_⟩
      rw [coldResponse, modified, ranged]
      simp only [Bool.false_eq_true, if_false, Bool.false_and, cacheFetch, ite_self]
      rw [GATEWAYS, read]
      rfl
    | some other =>
      cases held other rfl
      refine ⟨some content.length, ?_⟩
      rw [coldResponse, modified, ranged, get]
      rfl

theorem cachedResponse_agrees (serves : ∀ gateway ∈ GATEWAYS, Serves content (upstream gateway))
    (small : content.length ≤ gatewayLimit) (held : ∀ other, filled = some other → other = content)
    (get : request.method = .get) (ordinary : Ordinary content request) (etag : Text) :
    let cached := cachedResponse content request etag
    let cold := coldResponse upstream filled request etag
    cached.status = cold.status ∧ (cached.status = 200 ∨ cached.status = 206 → cached.body = cold.body) := by
  have first := serves "https://ipfs.filebase.io/ipfs" List.mem_cons_self
  intro cached cold
  cases modified : notModified request etag with
  | true =>
    obtain ⟨reply, asked, complete⟩ := first.complete
    obtain ⟨length, read⟩ := @readUpstream_complete content upstream request none true
      ["https://gateway.pinata.cloud/ipfs"] _ reply 502 asked complete small
    have hit : cached = ⟨304, none, none, noContent⟩ := by simp only [cached, cachedResponse, modified, if_true]
    have miss : cold = ⟨304, none, none, noContent⟩ := by
      cases filled with
      | none =>
        simp only [cold, coldResponse, modified, if_true, GATEWAYS, read, Bool.true_or, Bool.true_and, cacheFetch, ite_self]
      | some other =>
        simp only [cold, coldResponse, modified, if_true, get, and_self, cacheFetch]
        rfl
    rw [hit, miss]
    exact ⟨rfl, fun _ => rfl⟩
  | false =>
    have hit : cached = match byteRange (regardedRange request etag) content.length with
        | .unsatisfiable => ⟨416, none, some ("bytes */".toList ++ decimal content.length), noContent⟩
        | .ignored => ⟨200, some content.length, none, .bytes content⟩
        | .interval start stop => ⟨206, some (stop - start + 1),
          some ("bytes ".toList ++ decimal start ++ ['-'] ++ decimal stop ++ ['/'] ++ decimal content.length),
          .bytes (slice content start stop)⟩ := by
      simp only [cached, cachedResponse, modified, get, Bool.false_eq_true, if_false, reduceCtorEq]
    cases regarded : (regardedRange request etag).filter forwarded with
    | none =>
      have ignored : byteRange (regardedRange request etag) content.length = .ignored := by
        cases range : regardedRange request etag with
        | none => rfl
        | some value =>
          rw [range, Option.filter_some] at regarded
          have unforwarded : ¬forwarded value = true := fun matched => by rw [if_pos matched] at regarded; cases regarded
          exact byteRange_ignored (fun first last text => unforwarded (forwarded_iff.mpr ⟨first, last, text⟩))
      obtain ⟨length, miss⟩ := coldResponse_complete modified get small held (regarded ▸ first.complete)
      rw [hit, ignored]
      exact ⟨by rw [show cold = _ from miss], fun _ => by rw [show cold = _ from miss]⟩
    | some value =>
      obtain ⟨range, matched⟩ := Option.filter_eq_some_iff.mp regarded
      obtain ⟨first', last, text⟩ := forwarded_iff.mp matched
      have asked : request.range = some value := by
        unfold regardedRange at range
        split at range
        case isTrue => exact range
        case isFalse => cases range
      obtain ⟨safe, present⟩ := ordinary value first' last asked text
      obtain ⟨start, stop, selects⟩ | unsatisfiable | turned | ⟨empty, length, some, rfl, rfl⟩ := range_cases text.some
      · obtain ⟨reply, found, part⟩ := first.part value first' last start stop text selects
        have read := @readUpstream_part content upstream request
          ["https://gateway.pinata.cloud/ipfs"] _ reply 502 first' last start stop
          value found part text safe selects small get
        have miss := @coldResponse_ranged upstream request filled _ _ _ modified regarded read (show 206 ≠ 304 by decide)
        rw [hit, range, byteRange_selects text safe selects, show cold = _ from miss]
        exact ⟨rfl, fun _ => rfl⟩
      · have refused : ∀ gateway ∈ GATEWAYS, ∃ reply, upstream gateway (some value) = some reply ∧ reply.status = 416 :=
          fun gateway member => (serves gateway member).unsatisfiable value first' last text unsatisfiable
        have status := @readUpstream_unsatisfiable upstream request (some value) false GATEWAYS 502 refused (.inl (by decide))
        have miss := @coldResponse_ranged upstream request filled _ _ _ modified regarded rfl (by rw [status]; decide)
        rw [hit, range, byteRange_unsatisfiable text safe unsatisfiable, show cold = _ from miss, status]
        exact ⟨rfl, fun success => by simp at success⟩
      · obtain ⟨length, miss⟩ := coldResponse_complete modified get small held
          (regarded ▸ first.inverted value first' last text turned)
        rw [hit, range, byteRange_inverted text safe turned, show cold = _ from miss]
        exact ⟨rfl, fun _ => rfl⟩
      · obtain given | zero := present (List.eq_nil_of_length_eq_zero empty)
        · cases given
        · cases zero
          exact absurd some (by decide)

end Agreement

section Server

variable {content : List UInt8}

def rendered (start stop size : Nat) : Text :=
  "bytes ".toList ++ (decimal start ++ '-' :: (decimal stop ++ '/' :: decimal size))

theorem takeWhile_decimal (n : Nat) {c : Char} (other : isDigit c = false) (rest : Text) :
    (decimal n ++ c :: rest).takeWhile isDigit = decimal n ∧ (decimal n ++ c :: rest).dropWhile isDigit = c :: rest := by
  have all : ∀ d ∈ decimal n, isDigit d = true := Rest.toDigits_all n
  rw [List.takeWhile_append_of_pos all, List.dropWhile_append_of_pos all, List.takeWhile_cons, List.dropWhile_cons, other]
  exact ⟨List.append_nil _, rfl⟩

theorem position_decimal (n : Nat) : position (decimal n) = some n := by
  have nonempty : (decimal n).isEmpty = false := List.isEmpty_eq_false_iff.mpr Nat.toDigits_ne_nil
  rw [position, nonempty, if_neg Bool.false_ne_true, decimal, Rest.digitsValue_toDigits]

theorem decimal_ne_star (n : Nat) : decimal n ≠ ['*'] := by
  intro star
  have member : '*' ∈ decimal n := by
    rw [star]
    exact List.mem_cons_self
  cases Rest.toDigits_all n '*' member

/-- The positions that an answer reports are read back. -/
theorem contentRangeParts_rendered (start stop size : Nat) :
    contentRangeParts (rendered start stop size) = some (start, stop, some size) := by
  obtain ⟨first, behindFirst⟩ := @takeWhile_decimal start '-' rfl (decimal stop ++ '/' :: decimal size)
  obtain ⟨second, behindSecond⟩ := @takeWhile_decimal stop '/' rfl (decimal size)
  have starts : "bytes ".toList.isPrefixOf (rendered start stop size) = true :=
    List.isPrefixOf_iff_prefix.mpr (List.prefix_append _ _)
  have rest : (rendered start stop size).drop 6 = decimal start ++ '-' :: (decimal stop ++ '/' :: decimal size) := rfl
  have digits : (decimal size).all isDigit = true := List.all_eq_true.mpr (Rest.toDigits_all size)
  simp only [contentRangeParts, starts, if_true, rest, behindFirst, behindSecond, first, second, position_decimal, digits,
    decimal_ne_star, if_false, Option.bind_eq_bind, Option.bind_some, Option.pure_def]

def whole (content : List UInt8) : Reply := ⟨200, none, some (decimal content.length), none, [content]⟩

def partOf (content : List UInt8) (start stop : Nat) : Reply :=
  ⟨206, none, some (decimal (stop - start + 1)), some (rendered start stop content.length),
    [(slice content start stop).take 1, (slice content start stop).drop 1]⟩

def unsatisfiable : Reply := ⟨416, none, none, none, []⟩

/-- Of an empty object the whole is sent for a suffix. -/
def answer (content : List UInt8) : Option Nat → Option Nat → Reply
  | none, none => whole content
  | none, some length =>
    if length = 0 then unsatisfiable
    else if content.length = 0 then whole content
    else partOf content (content.length - length) (content.length - 1)
  | some first, none => if content.length ≤ first then unsatisfiable else partOf content first (content.length - 1)
  | some first, some last =>
    if last < first then whole content
    else if content.length ≤ first then unsatisfiable
    else partOf content first (min last (content.length - 1))

/-- A server that reads positions of any size. -/
def server (content : List UInt8) (range : Option Text) : Option Reply :=
  match range.bind rangeParts with
  | none => some (whole content)
  | some (first, last) => some (answer content (position first) (position last))

theorem whole_complete : Complete content (whole content) where
  status := rfl
  plain := .inl rfl
  declares := by
    rintro _ ⟨⟩
    refine ⟨Nat.toDigits_ne_nil, List.all_eq_true.mpr (Rest.toDigits_all _), ?_⟩
    exact (Rest.digitsValue_toDigits _).trans (congrArg List.length (List.append_nil content).symm)
  noRange := rfl
  body := List.append_nil content

theorem partOf_body (sent : List UInt8) : [sent.take 1, sent.drop 1].flatten = sent := by
  rw [List.flatten_cons, List.flatten_cons, List.flatten_nil, List.append_nil, List.take_append_drop]

theorem partOf_part {start stop : Nat} (ordered : start ≤ stop) (inside : stop < content.length) :
    Part content start stop (partOf content start stop) where
  status := rfl
  plain := .inl rfl
  declares := by
    rintro _ ⟨⟩
    refine ⟨Nat.toDigits_ne_nil, List.all_eq_true.mpr (Rest.toDigits_all _), ?_⟩
    exact (Rest.digitsValue_toDigits _).trans ((length_slice ordered inside).symm.trans (congrArg _ (partOf_body _).symm))
  range := ⟨some content.length, contentRangeParts_rendered start stop content.length, .inr rfl⟩
  body := partOf_body _

theorem server_text {range : Text} {first last : Option Nat} (text : RangeText range first last) :
    server content (some range) = some (answer content first last) := by
  obtain ⟨firstDigits, lastDigits, parts, rfl, rfl⟩ := text.parts
  rw [server, Option.bind_some, parts]

theorem server_serves (content : List UInt8) : Serves content (server content) where
  complete := ⟨_, rfl, whole_complete⟩
  part := by
    intro range first last start stop text selects
    obtain ⟨ordered, inside⟩ := selects.bounds
    refine ⟨partOf content start stop, (server_text text).trans (congrArg some ?_), partOf_part ordered inside⟩
    cases selects with
    | bounded order within => rw [answer, if_neg (Nat.not_lt.mpr order), if_neg (Nat.not_le.mpr within)]
    | fromFirst within => rw [answer, if_neg (Nat.not_le.mpr within)]
    | suffix some nonempty => rw [answer, if_neg (Nat.ne_of_gt some), if_neg (Nat.ne_of_gt nonempty)]
  unsatisfiable := by
    intro range first last text outside
    refine ⟨Gateway.unsatisfiable, (server_text text).trans (congrArg some ?_), rfl⟩
    cases outside with
    | bounded order beyond => rw [answer, if_neg (Nat.not_lt.mpr order), if_pos beyond]
    | fromFirst beyond => rw [answer, if_pos beyond]
    | suffix => rfl
  inverted := by
    intro range first last text turned
    refine ⟨whole content, (server_text text).trans (congrArg some ?_), whole_complete⟩
    cases turned with
    | intro backwards => rw [answer, if_pos backwards]

end Server

/-- From the cache and from upstreams that serve the object, the status and the bytes of a success agree; and an answer is
taken for the range it was asked for exactly when it is measured and the gateway selects the same interval. -/
theorem cached_agrees_with_cold :
    (∀ (content : List UInt8) (upstream : String → Option Text → Option Reply) (filled : Option (List UInt8))
        (path : Option Text) (request : Request),
      (∀ gateway ∈ GATEWAYS, Serves content (upstream gateway)) → content.length ≤ gatewayLimit →
      (∀ other, filled = some other → other = content) → request.method = .get → Ordinary content request →
      let hit := createIpfsGateway upstream (some content) filled path request
      let cold := createIpfsGateway upstream none filled path request
      hit.status = cold.status ∧ (hit.status = 200 ∨ hit.status = 206 → hit.body = cold.body)) ∧
    ∀ (value : Option Text) (length : Option Nat) (requested : Text),
      (contentRangeLength value length requested).isSome = true ↔ ∃ start stop total,
        value.bind contentRangeParts = some (start, stop, total) ∧ Measured start stop total length ∧
          byteRange (some requested) (total.getD (stop + 1)) = .interval start stop := by
  refine ⟨fun content upstream filled path request serves small held get ordinary => ?_, fun value length requested => ?_⟩
  · cases path with
    | none => exact ⟨rfl, fun _ => rfl⟩
    | some path => exact cachedResponse_agrees serves small held get ordinary _
  rw [Option.isSome_iff_exists]
  constructor
  · rintro ⟨taken, accepted⟩
    obtain ⟨start, stop, total, read, _, measured, same⟩ := contentRangeLength_iff.mp accepted
    exact ⟨start, stop, total, read, measured, same⟩
  · rintro ⟨start, stop, total, read, measured, same⟩
    exact ⟨_, contentRangeLength_iff.mpr ⟨start, stop, total, read, rfl, measured, same⟩⟩

namespace GatewaySample

def content : List UInt8 := [10, 20, 30]

def asked (range : String) : Request := ⟨.get, some range.toList, none, none⟩

def path : Option Text := some "cid".toList

def upstream (content : List UInt8) : String → Option Text → Option Reply := fun _ => server content

end GatewaySample

open GatewaySample in
/-- The last two bytes are asked for; the upstream sends them one at a time. -/
theorem cached_agrees_with_cold_sample :
    (createIpfsGateway (upstream content) none none path (asked "bytes=-2")).status = 206 ∧
      (createIpfsGateway (upstream content) none none path (asked "bytes=-2")).body = .bytes [20, 30] := by
  have parts : rangeParts "bytes=-2".toList = some ([], ['2']) := by decide
  have ordinary : Ordinary content (asked "bytes=-2") := by
    rintro value first last ⟨⟩ ⟨⟨firstDigits, lastDigits, read, rfl, rfl⟩, _⟩
    cases parts.symm.trans read
    exact ⟨⟨by decide, by decide⟩, nofun⟩
  have agrees := cached_agrees_with_cold.1 content (upstream content) none path (asked "bytes=-2")
    (fun _ _ => server_serves content) (by decide) (by rintro _ ⟨⟩) rfl ordinary
  have hit : createIpfsGateway (upstream content) (some content) none path (asked "bytes=-2") =
      ⟨206, some 2, some "bytes 1-2/3".toList, .bytes [20, 30]⟩ := by decide +kernel
  rw [hit] at agrees
  exact ⟨agrees.1.symm, (agrees.2 (.inr rfl)).symm⟩

open GatewaySample in
/-- A suffix of an empty object is refused from the cache, while a server may send all of it; and an interval of an object
whose total is no safe integer is not taken, though the gateway would select it. -/
theorem cached_disagrees_with_cold :
    ((∀ gateway ∈ GATEWAYS, Serves [] (upstream [] gateway)) ∧
      (createIpfsGateway (upstream []) (some []) none path (asked "bytes=-5")).status = 416 ∧
      (createIpfsGateway (upstream []) none none path (asked "bytes=-5")).status = 200) ∧
    (contentRangeLength (some "bytes 0-4/9007199254740992".toList) none "bytes=0-4".toList = none ∧
      byteRange (some "bytes=0-4".toList) 9007199254740992 = .interval 0 4) :=
  ⟨⟨fun _ _ => server_serves [], by decide +kernel, by decide +kernel⟩, by decide +kernel, by decide +kernel⟩

end JBCenter.Gateway
