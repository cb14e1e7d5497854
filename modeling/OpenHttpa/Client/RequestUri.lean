import OpenHttpa.Client.Requests

/-!
# Where a request goes

`trusted_request_ext` of `openhttpa-client/src/client.rs` from its arguments to the request it gives
to the transport. The path is put behind the URI of the server and the whole is parsed again, so the
request goes to the authority of the server whatever the path is (`requestUri_authority`). The MAC
covers the path and the query of that URI and `ahl_authority` of it, which is to be what the HTTP
library sends in the host header: the host in lower case, without user information or a default port.
`ahl_authority` strips a default port and nothing else, so the two agree exactly on authorities that
are written that way already (`ahlAuthority_eq_hostValue_iff`).
-/
namespace OpenHttpa.Client

open OpenHttpa.Core Crypto Proto Headers

inductive Scheme where
  | Http
  | Https
  | Other (name : List Char)

namespace Scheme

def asStr : Scheme → List Char
  | Http => "http".toList
  | Https => "https".toList
  | Other name => name

/-- The port that `ahl_authority` strips. -/
def strippedPort : Scheme → Option (List Char)
  | Https => some "443".toList
  | Http => some "80".toList
  | Other _ => none

def defaultPort : Scheme → Option Nat
  | Https => some 443
  | Http => some 80
  | Other _ => none

theorem strippedPort_eq (scheme : Scheme) :
    scheme.strippedPort = scheme.defaultPort.map (Nat.toDigits 10) := by
  cases scheme with
  | Http | Https => decide
  | Other name => rfl

end Scheme

/-- The parts of an authority: the user information before the last `@`, the host, and what stands
after the colon of the port. -/
structure AuthorityParts where
  userinfo : Option (List Char)
  host : List Char
  port : Option (List Char)

/-- `Authority::as_str`. -/
def AuthorityParts.text (parts : AuthorityParts) : List Char :=
  parts.userinfo.elim [] (· ++ ['@']) ++ (parts.host ++ parts.port.elim [] (':' :: ·))

/-- `http::uri::Authority`: the parts of a text that `Authority::parse` lets through. -/
structure Authority extends AuthorityParts where
  /-- The user information ends at the last `@`. -/
  host_plain : '@' ∉ host
  host_bracketed : ∀ front back, host = front ++ ':' :: back → ']' ∈ back
  port_plain : ∀ digits, port = some digits → '@' ∉ digits ∧ ':' ∉ digits

structure HttpUri where
  scheme : Option Scheme
  authority : Option Authority
  path : List Char
  query : Option (List Char)

def HttpUri.display (uri : HttpUri) : List Char :=
  uri.scheme.elim [] (·.asStr ++ "://".toList) ++
    (uri.authority.elim [] (·.text) ++ (uri.path ++ uri.query.elim [] ('?' :: ·)))

/-- The parser of `http::Uri`, with what a request depends on. -/
structure UriParser where
  /-- `Uri::from_str`, with `Display` of its errors. -/
  parse : List Char → Except String HttpUri
  /-- The path of a web address begins with a slash, also where none is written. -/
  parse_rooted : ∀ {text uri scheme}, parse text = .ok uri → uri.scheme = some scheme →
    scheme.defaultPort ≠ none → ∃ more, uri.path = '/' :: more
  /-- A text that begins with the scheme and the authority of a web address has them. -/
  parse_origin : ∀ {text uri scheme authority}, parse text = .ok uri → uri.scheme = some scheme →
    scheme.defaultPort ≠ none → uri.authority = some authority → ∀ {behind full},
      parse (scheme.asStr ++ "://".toList ++ authority.text ++ '/' :: behind) = .ok full →
        full.scheme = some scheme ∧ full.authority = some authority

/-- A path argument behind the URI of the server; a slash on both sides is written once. -/
def joinPath (server : HttpUri) (path : List Char) : List Char :=
  let base := server.display
  (if base.getLast? = some '/' && path.head? = some '/' then base.dropLast else base) ++ path

def requestUri (parser : UriParser) (server : HttpUri) (path : List Char) :
    Except ClientError HttpUri :=
  match parser.parse (joinPath server path) with
  | .error reason =>
    .error (.Handshake ("Invalid request URI '" ++ String.ofList (joinPath server path) ++ "': " ++
      reason))
  | .ok full => .ok full

variable {text : List Char} {scheme : Scheme} {server : HttpUri} {separator : Char}
  {parser : UriParser} {front path back : List Char}

theorem joinPath_slash {more : List Char}
    (shown : server.display = front ++ '/' :: more) (path : List Char) :
    ∃ rest, joinPath server path = front ++ '/' :: rest := by
  unfold joinPath
  dsimp only
  rw [shown]
  split
  · rename_i slashes
    obtain ⟨_, second⟩ := Bool.and_eq_true_iff.mp slashes
    cases path with
    | nil => cases second
    | cons char path =>
      simp only [List.head?_cons, decide_eq_true_eq, Option.some.injEq] at second
      subst second
      cases more with
      | nil => exact ⟨path, by simp⟩
      | cons next more =>
        refine ⟨(next :: more).dropLast ++ '/' :: path, ?_⟩
        rw [List.dropLast_append_of_ne_nil (List.cons_ne_nil _ _), List.dropLast_cons_cons]
        simp
  · exact ⟨more ++ path, by simp⟩

theorem requestUri_authority {full : HttpUri} {authority : Authority}
    (built : parser.parse text = .ok server) (schemed : server.scheme = some scheme)
    (web : scheme.defaultPort ≠ none) (named : server.authority = some authority)
    (made : requestUri parser server path = .ok full) :
    full.scheme = some scheme ∧ full.authority = some authority := by
  obtain ⟨more, rooted⟩ := parser.parse_rooted built schemed web
  have shown : server.display = (scheme.asStr ++ "://".toList ++ authority.text) ++
      '/' :: (more ++ server.query.elim [] ('?' :: ·)) := by
    simp [HttpUri.display, schemed, named, rooted]
  obtain ⟨behind, joined⟩ := joinPath_slash shown path
  unfold requestUri at made
  split at made
  · cases made
  · rename_i uri parsed
    cases made
    rw [joined] at parsed
    exact parser.parse_origin built schemed web named parsed

def rsplitOnce (separator : Char) (text : List Char) : Option (List Char × List Char) :=
  match text.reverse.dropWhile (· ≠ separator) with
  | [] => none
  | _ :: front => some (front.reverse, (text.reverse.takeWhile (· ≠ separator)).reverse)

theorem rsplitOnce_append (free : separator ∉ back)
    (front : List Char) : rsplitOnce separator (front ++ separator :: back) = some (front, back) := by
  have other : ∀ char ∈ back.reverse, decide (char ≠ separator) = true := by
    intro char member
    rw [List.mem_reverse] at member
    exact decide_eq_true fun same => free (same ▸ member)
  have turned : (front ++ separator :: back).reverse =
      back.reverse ++ separator :: front.reverse := by simp
  simp only [rsplitOnce, turned, List.dropWhile_append_of_pos other,
    List.takeWhile_append_of_pos other]
  simp

theorem rsplitOnce_none (free : separator ∉ text) :
    rsplitOnce separator text = none := by
  have other : ∀ char ∈ text.reverse, decide (char ≠ separator) = true := by
    intro char member
    rw [List.mem_reverse] at member
    exact decide_eq_true fun same => free (same ▸ member)
  simp only [rsplitOnce, List.dropWhile_eq_nil_iff.mpr other]

theorem rsplitOnce_some (split : rsplitOnce separator text = some (front, back)) :
    text = front ++ separator :: back := by
  by_cases held : separator ∈ text
  · obtain ⟨last, first, turned, free⟩ := List.eq_append_cons_of_mem (List.mem_reverse.mpr held)
    have parts : text = first.reverse ++ separator :: last.reverse := by
      rw [← List.reverse_reverse text, turned]
      simp
    rw [parts, rsplitOnce_append (by simpa using free)] at split
    cases split
    exact parts
  · rw [rsplitOnce_none held] at split
    cases split

def ahlAuthority (uri : HttpUri) : List Char :=
  match uri.authority with
  | none => []
  | some authority =>
    match uri.scheme.bind Scheme.strippedPort with
    | none => authority.text
    | some defaultPort =>
      match rsplitOnce ':' authority.text with
      | some (host, port) => if port = defaultPort then host else authority.text
      | none => authority.text

def portNumber (digits : List Char) : Nat := Nat.ofDigitChars 10 digits 0

def urlPort : Option (List Char) → Option (Option Nat)
  | none | some [] => some none
  | some digits =>
    if digits.all Char.isDigit && decide (portNumber digits < 2 ^ 16) then
      some (some (portNumber digits))
    else
      none

def shownPort (scheme : Scheme) : Option Nat → List Char
  | none => []
  | some number => if scheme.defaultPort = some number then [] else ':' :: Nat.toDigits 10 number

/-- The host a request to the URI names. -/
def hostValue (uri : HttpUri) : Option (List Char) :=
  match uri.scheme, uri.authority with
  | some scheme, some authority =>
    match urlPort authority.port with
    | none => none
    | some port =>
      if authority.host = [] then none
      else some (authority.host.map Char.toLower ++ shownPort scheme port)
  | _, _ => none

/-- The authority is written as it is sent: without user information, the host in lower case, and a
port, if there is a colon for one, without leading zeros. -/
structure Authority.Normal (authority : Authority) : Prop where
  userinfo : authority.userinfo = none
  host : authority.host.map Char.toLower = authority.host
  port : ∀ digits, authority.port = some digits → Nat.toDigits 10 (portNumber digits) = digits

section Authority

variable {uri : HttpUri} {scheme : Scheme} {authority : Authority} {value : List Char}

theorem toLower_eq_at {char : Char} (lower : char.toLower = '@') : char = '@' := by
  unfold Char.toLower at lower
  split at lower
  · rename_i upper
    -- a letter in lower case lies above all of the upper ones, which lie above `@`
    have value := congrArg Char.val lower
    dsimp only at value
    grind
  · exact lower

theorem strippedPort_plain {digits : List Char} (default : scheme.strippedPort = some digits) :
    '@' ∉ digits ∧ ']' ∉ digits := by
  cases scheme with
  | Http | Https =>
    cases default
    decide
  | Other name => cases default

/-- What `ahl_authority` leaves of a port: all of it, unless it is written as the default one. -/
def keptPort (scheme : Scheme) : Option (List Char) → List Char
  | none => []
  | some digits => if scheme.strippedPort = some digits then [] else ':' :: digits

theorem host_append_inj {host port other : List Char} :
    host ++ port = host.map Char.toLower ++ other ↔ host.map Char.toLower = host ∧ port = other := by
  constructor
  · intro same
    obtain ⟨hosts, ports⟩ := List.append_inj same (List.length_map _).symm
    exact ⟨hosts.symm, ports⟩
  · rintro ⟨hosts, rfl⟩
    rw [hosts]

theorem keptPort_eq_iff (web : scheme.defaultPort ≠ none) {port : Option (List Char)}
    {number : Option Nat} (valid : urlPort port = some number) :
    keptPort scheme port = shownPort scheme number ↔
      ∀ digits, port = some digits → Nat.toDigits 10 (portNumber digits) = digits := by
  obtain ⟨default, known⟩ := Option.ne_none_iff_exists'.mp web
  have stripped : scheme.strippedPort = some (Nat.toDigits 10 default) := by
    rw [scheme.strippedPort_eq, known]
    rfl
  rcases port with _ | _ | ⟨first, more⟩
  · cases valid
    simp [keptPort, shownPort]
  · cases valid
    have shown : Nat.toDigits 10 (portNumber []) ≠ [] := Nat.toDigits_ne_nil
    simp [keptPort, shownPort, stripped, Nat.toDigits_ne_nil, shown]
  · have valued : number = some (portNumber (first :: more)) := by
      simp only [urlPort] at valid
      split at valid
      · cases valid
        rfl
      · cases valid
    subst valued
    generalize first :: more = digits
    simp only [keptPort, shownPort, stripped, known, Option.some.injEq, forall_eq']
    by_cases same : default = portNumber digits
    · rw [if_pos same, ← same]
      by_cases written : Nat.toDigits 10 default = digits
      · simp [written]
      · simp [written]
    · rw [if_neg same]
      have other : Nat.toDigits 10 default ≠ digits := by
        rintro rfl
        exact same (Nat.ofDigitChars_toDigits (by decide) (by decide)).symm
      rw [if_neg other]
      simp [eq_comm]

variable (schemed : uri.scheme = some scheme) (named : uri.authority = some authority)
include schemed named

theorem hostValue_some (sent : hostValue uri = some value) :
    ∃ port, urlPort authority.port = some port ∧ authority.host ≠ [] ∧
      value = authority.host.map Char.toLower ++ shownPort scheme port := by
  simp only [hostValue, schemed, named] at sent
  split at sent
  · cases sent
  · rename_i port valid
    split at sent
    · cases sent
    · rename_i nonempty
      cases sent
      exact ⟨port, valid, nonempty, rfl⟩

theorem at_notMem_hostValue (sent : hostValue uri = some value) : '@' ∉ value := by
  obtain ⟨port, _, _, rfl⟩ := hostValue_some schemed named sent
  rw [List.mem_append, not_or]
  constructor
  · intro member
    obtain ⟨char, within, lower⟩ := List.mem_map.mp member
    exact authority.host_plain (toLower_eq_at lower ▸ within)
  · unfold shownPort
    split
    · simp
    · split
      · simp
      · intro member
        rcases List.mem_cons.mp member with same | digit
        · cases same
        · exact absurd (Nat.isDigit_of_mem_toDigits (by decide) (by decide) digit) (by decide)

theorem at_mem_ahlAuthority {info : List Char} (held : authority.userinfo = some info) :
    '@' ∈ ahlAuthority uri := by
  have whole : '@' ∈ authority.text := by simp [AuthorityParts.text, held]
  simp only [ahlAuthority, named, schemed, Option.bind_some]
  split
  · exact whole
  · rename_i default stripped
    split
    · rename_i host port split
      split
      · rename_i same
        rw [rsplitOnce_some split, same, List.mem_append, List.mem_cons] at whole
        rcases whole with front | colon | digit
        · exact front
        · cases colon
        · exact absurd digit (strippedPort_plain stripped).1
      · exact whole
    · exact whole

theorem ahlAuthority_eq (plain : authority.userinfo = none) :
    ahlAuthority uri = authority.host ++ keptPort scheme authority.port := by
  simp only [ahlAuthority, named, schemed, Option.bind_some]
  cases port : authority.port with
  | none =>
    have text : authority.text = authority.host := by simp [AuthorityParts.text, plain, port]
    rw [text, keptPort, List.append_nil]
    split
    · rfl
    · rename_i default stripped
      split
      · rename_i front back split
        -- a colon of the host has a bracket behind it, so what follows is no port
        have bracket := authority.host_bracketed front back (rsplitOnce_some split)
        refine if_neg ?_
        rintro rfl
        exact (strippedPort_plain stripped).2 bracket
      · rfl
  | some digits =>
    have text : authority.text = authority.host ++ ':' :: digits := by
      simp [AuthorityParts.text, plain, port]
    have split := rsplitOnce_append (authority.port_plain digits port).2 authority.host
    simp only [text, split, keptPort]
    cases stripped : scheme.strippedPort with
    | none => simp
    | some default =>
      simp only [Option.some.injEq, eq_comm (a := default)]
      split
      · exact (List.append_nil _).symm
      · rfl

theorem ahlAuthority_eq_hostValue_iff (web : scheme.defaultPort ≠ none)
    (sent : hostValue uri = some value) : ahlAuthority uri = value ↔ authority.Normal := by
  cases info : authority.userinfo with
  | some text =>
    have differs : ahlAuthority uri ≠ value := by
      rintro rfl
      exact at_notMem_hostValue schemed named sent (at_mem_ahlAuthority schemed named info)
    refine iff_of_false differs fun normal => ?_
    rw [normal.userinfo] at info
    cases info
  | none =>
    obtain ⟨port, valid, _, rfl⟩ := hostValue_some schemed named sent
    rw [ahlAuthority_eq schemed named info, host_append_inj, keptPort_eq_iff web valid]
    exact ⟨fun ⟨host, port⟩ => ⟨info, host, port⟩, fun normal => ⟨normal.host, normal.port⟩⟩

end Authority

/-- The libraries behind a request, with those that only its URI and its body need. -/
structure RequestWriter where
  codecs : RequestCodecs
  /-- `Uri::from_str`. -/
  uris : UriParser
  /-- The error of `Method::from_bytes`, if it has one. -/
  methodError : String → Option String
  /-- `serde_json::to_vec` of the object with the hexadecimal ciphertext. -/
  wire : Bytes → Bytes

/-- `TransportRequest`, whose trailers are none. -/
structure TransportRequest where
  method : String
  uri : HttpUri
  headers : HeaderMap
  body : Bytes

def requestLine (method : String) (uri : HttpUri) : RequestLine where
  method := method
  path := String.ofList uri.path
  query := uri.query.map String.ofList
  authority := String.ofList (ahlAuthority uri)

/-- `trusted_request_ext` of a client with a transport, up to the request it sends. -/
def trustedRequestExt (writer : RequestWriter) (now : Nat) (server : HttpUri) (method : String)
    (path : List Char) (body : Bytes) (extra : Option HeaderMap) (session : AttestSession) :
    Except ClientError TransportRequest × AttestSession :=
  if session.isAlive now = false then
    (.error .NotAttested, session)
  else
    match requestUri writer.uris server path with
    | .error failure => (.error failure, session)
    | .ok full =>
      match sendRequest writer.codecs now (requestLine method full) body extra session with
      | (.error failure, left) => (.error failure, left)
      | (.ok sealed, left) =>
        match writer.methodError method with
        | some reason =>
          (.error (.Transport ("invalid HTTP method '" ++ method ++ "': " ++ reason)), left)
        | none => (.ok ⟨method, full, sealed.headers, writer.wire sealed.data⟩, left)

theorem trustedRequestExt_ok {writer : RequestWriter} {now : Nat} {method : String}
    {body : Bytes} {extra : Option HeaderMap} {session : AttestSession} {request : TransportRequest}
    (sent : (trustedRequestExt writer now server method path body extra session).1 = .ok request) :
    requestUri writer.uris server path = .ok request.uri ∧ request.method = method ∧
      ∃ sealed, (sendRequest writer.codecs now (requestLine method request.uri) body extra session).1 =
          .ok sealed ∧
        request.headers = sealed.headers ∧ request.body = writer.wire sealed.data := by
  unfold trustedRequestExt at sent
  split at sent
  · cases sent
  split at sent
  · cases sent
  rename_i full made
  split at sent
  · cases sent
  rename_i sealed left returned
  split at sent
  · cases sent
  cases sent
  exact ⟨made, rfl, sealed, congrArg Prod.fst returned, rfl, rfl⟩

end OpenHttpa.Client
