import OpenHttpa.Oracle.Payload

/-!
# Where an oracle node ends up fetching from

`fetch_and_prove` of `openhttpa-oracle/src/oracle.rs` compares the host of the URL it is given with a
list of private and reserved ranges, and then lets the HTTP client fetch it. The client is built with the
default policy for redirects: it follows up to ten of them, to any host. So a URL that is let through is
safe under every chain of redirects in no case (`contacted_safe_iff`), and without redirects it is safe
unless its host is a reserved address in another spelling: an IPv4 address written as an IPv6 address, or
`localhost` with the dot of the root behind it.
-/
namespace OpenHttpa.Oracle

open OpenHttpa.Core Proto Zk

/-! ## The code -/

def Url.followable (url : Url) : Bool :=
  (url.scheme = "http" ∨ url.scheme = "https") ∧ url.host.isSome

/-- The hosts that the HTTP client contacts behind the first, when so many redirects may still be
followed: `chain` are the URLs that the answers redirect to. -/
def followed : Nat → List Url → List Host
  | budget + 1, url :: chain =>
    if url.followable then url.host.toList ++ followed budget chain else []
  | _, _ => []

/-- `redirect::Policy::default`. -/
def maxRedirects : Nat := 10

/-- The hosts that `fetch_and_prove` contacts. -/
def contacted (world : World) (url : String) (chain : List Url) : List Host :=
  match admitUrl world url with
  | .error _ => []
  | .ok parsedUrl => parsedUrl.host.toList ++ followed maxRedirects chain

/-! ## Reserved addresses -/

/-- The address is loopback, private, link-local, unspecified or shared. -/
def ReservedIpv4 (a b c d : UInt8) : Prop :=
  a = 127 ∨ a = 10 ∨ (a = 172 ∧ 16 ≤ b ∧ b ≤ 31) ∨ (a = 192 ∧ b = 168) ∨ (a = 169 ∧ b = 254) ∨
    (a, b, c, d) = (0, 0, 0, 0) ∨ (a = 100 ∧ 64 ≤ b ∧ b ≤ 127)
deriving Decidable

/-- The address is `::1`, `::`, in `fe80::/10` or in `fc00::/7`. -/
def ReservedIpv6 (segments : Vector UInt16 8) : Prop :=
  segments.toList = [0, 0, 0, 0, 0, 0, 0, 1] ∨ segments.toList = List.replicate 8 0 ∨
    (0xfe80 ≤ segments.get ⟨0, first_segment⟩ ∧ segments.get ⟨0, first_segment⟩ ≤ 0xfebf) ∨
    (0xfc00 ≤ segments.get ⟨0, first_segment⟩ ∧ segments.get ⟨0, first_segment⟩ ≤ 0xfdff)
deriving Decidable

def SafeIpv4 (address : UInt8 × UInt8 × UInt8 × UInt8) : Prop :=
  address = (127, 0, 0, 1) ∨ ¬ ReservedIpv4 address.1 address.2.1 address.2.2.1 address.2.2.2
deriving Decidable

def mappedIpv4 (segments : Vector UInt16 8) : Option (UInt8 × UInt8 × UInt8 × UInt8) :=
  match segments.toList with
  | [0, 0, 0, 0, 0, 0xffff, high, low] =>
    some ((high >>> 8).toUInt8, high.toUInt8, (low >>> 8).toUInt8, low.toUInt8)
  | _ => none

/-- A host that may be contacted. -/
def Host.Safe : Host → Prop
  | .domain name => ¬ Attestation.eqIgnoreAsciiCase name "localhost" ∧
      ¬ Attestation.eqIgnoreAsciiCase name "localhost."
  | .ipv4 a b c d => SafeIpv4 (a, b, c, d)
  | .ipv6 segments => (mappedIpv4 segments).elim (¬ ReservedIpv6 segments) SafeIpv4

instance (address : Option (UInt8 × UInt8 × UInt8 × UInt8)) (p : Prop) [Decidable p] :
    Decidable (address.elim p SafeIpv4) :=
  match address with
  | none => inferInstanceAs (Decidable p)
  | some inside => inferInstanceAs (Decidable (SafeIpv4 inside))

instance : DecidablePred Host.Safe
  | .domain _ => inferInstanceAs (Decidable (_ ∧ _))
  | .ipv4 a b c d => inferInstanceAs (Decidable (SafeIpv4 (a, b, c, d)))
  | .ipv6 _ => inferInstanceAs (Decidable (Option.elim _ _ SafeIpv4))

/-- A host that may not be contacted, in a spelling that is not compared. -/
def Host.Disguised : Host → Prop
  | .domain name => Attestation.eqIgnoreAsciiCase name "localhost."
  | .ipv4 .. => False
  | .ipv6 segments => ∃ inside, mappedIpv4 segments = some inside ∧ ¬ SafeIpv4 inside

theorem blockedIpv4_eq_false_iff {a b c d : UInt8} :
    blockedIpv4 a b c d = false ↔ SafeIpv4 (a, b, c, d) := by
  unfold blockedIpv4 SafeIpv4 ReservedIpv4
  rw [decide_eq_false_iff_not]
  by_cases loopback : (a, b, c, d) = (127, 0, 0, 1)
  · cases loopback
    decide
  · simp only [loopback, ne_eq, not_false_iff, and_true, false_or]

theorem and_mask_eq_iff {address start : UInt16} {width bits : Nat} (whole : width + bits = 16)
    {mask : UInt16} (masked : mask.toNat = (2 ^ width - 1) * 2 ^ bits)
    (aligned : start.toNat % 2 ^ bits = 0) :
    address &&& mask = start ↔ address.toNat / 2 ^ bits = start.toNat / 2 ^ bits := by
  have front : address.toNat &&& mask.toNat = address.toNat / 2 ^ bits * 2 ^ bits := by
    apply Nat.eq_of_testBit_eq
    intro i
    rw [masked, Nat.testBit_and, Nat.testBit_mul_two_pow, Nat.testBit_mul_two_pow,
      Nat.testBit_two_pow_sub_one, Nat.testBit_div_two_pow]
    by_cases low : bits ≤ i
    · by_cases high : i < 16
      · simp [low, show i - bits < width by omega, show i - bits + bits = i by omega]
      · have zero : address.toNat.testBit i = false :=
          Nat.testBit_lt_two_pow (address.toNat_lt.trans_le (Nat.pow_le_pow_right (by decide) (by omega)))
        simp [zero, show i - bits + bits = i by omega]
    · simp [low]
  rw [← UInt16.toNat_inj, UInt16.toNat_and, front]
  constructor
  · intro same
    rw [← same, Nat.mul_div_cancel _ (Nat.two_pow_pos bits)]
  · intro same
    rw [same, Nat.div_mul_cancel (Nat.dvd_of_mod_eq_zero aligned)]

variable {segments : Vector UInt16 8} {host : Host} {world : World} {url : String}

theorem blockedIpv6_eq_false_iff :
    blockedIpv6 segments = false ↔ ¬ ReservedIpv6 segments := by
  generalize named : segments.get ⟨0, first_segment⟩ = first
  have linkLocal : first &&& 0xffc0 = 0xfe80 ↔ 0xfe80 ≤ first ∧ first ≤ 0xfebf := by
    rw [and_mask_eq_iff (show 10 + 6 = 16 from rfl) rfl rfl, UInt16.le_iff_toNat_le,
      UInt16.le_iff_toNat_le]
    simp only [UInt16.reduceToNat]
    omega
  have uniqueLocal : first &&& 0xfe00 = 0xfc00 ↔ 0xfc00 ≤ first ∧ first ≤ 0xfdff := by
    rw [and_mask_eq_iff (show 7 + 9 = 16 from rfl) rfl rfl, UInt16.le_iff_toNat_le,
      UInt16.le_iff_toNat_le]
    simp only [UInt16.reduceToNat]
    omega
  unfold blockedIpv6 ReservedIpv6
  rw [decide_eq_false_iff_not, named]
  simp only [beq_iff_eq, linkLocal, uniqueLocal]

theorem blockedIpv6_of_mapped {inside : UInt8 × UInt8 × UInt8 × UInt8}
    (mapped : mappedIpv4 segments = some inside) : blockedIpv6 segments = false := by
  obtain ⟨⟨list⟩, size⟩ := segments
  unfold mappedIpv4 at mapped
  split at mapped
  · next high low same =>
    cases same
    simp [blockedIpv6, Vector.get]
  · cases mapped

/-! ## The hosts that are contacted -/

theorem disguised_iff {url : Url} (named : url.host = some host) :
    host.Disguised ↔ validateUrlForSsrf url = .ok () ∧ ¬ host.Safe := by
  unfold validateUrlForSsrf
  rw [named]
  cases host with
  | domain name =>
    have apart : Attestation.eqIgnoreAsciiCase name "localhost." = true →
        Attestation.eqIgnoreAsciiCase name "localhost" ≠ true := by
      intro dotted plain
      have same := (of_decide_eq_true dotted).symm.trans (of_decide_eq_true plain)
      exact absurd same (by decide)
    dsimp only
    split
    · next plain => exact iff_of_false (fun dotted => apart dotted plain) (by rintro ⟨⟨⟩, -⟩)
    · next other => simp [Host.Safe, Host.Disguised, other]
  | ipv4 a b c d =>
    dsimp only
    split
    · exact iff_of_false id (by rintro ⟨⟨⟩, -⟩)
    · next passed =>
      have safe := blockedIpv4_eq_false_iff.mp (Bool.eq_false_iff.mpr passed)
      exact iff_of_false id (fun compared => compared.2 safe)
  | ipv6 segments =>
    cases mapped : mappedIpv4 segments with
    | some inside =>
      have passed := blockedIpv6_of_mapped mapped
      simp [Host.Safe, Host.Disguised, mapped, passed]
    | none =>
      have outside := @blockedIpv6_eq_false_iff segments
      simp [Host.Safe, Host.Disguised, mapped, ← outside]

theorem admitUrl_ok {parsedUrl : Url}
    (admitted : admitUrl world url = .ok parsedUrl) : validateUrlForSsrf parsedUrl = .ok () := by
  unfold admitUrl at admitted
  split at admitted
  · cases admitted
  · obtain ⟨⟨⟩, validated, admitted⟩ := bind_ok admitted
    split at admitted
    · cases admitted
    · cases admitted
      exact validated

def metadataUrl : Url := ⟨"http", some (.ipv4 169 254 169 254), some "169.254.169.254"⟩

theorem mem_contacted_iff {chain : List Url} :
    host ∈ contacted world url chain ↔ ∃ parsedUrl, admitUrl world url = .ok parsedUrl ∧
      (parsedUrl.host = some host ∨ host ∈ followed maxRedirects chain) := by
  unfold contacted
  cases admitUrl world url with
  | error | ok => simp

/-- **Contacted hosts.** Every host that is contacted is safe exactly if the URL is refused, or its host
is not disguised and every redirect that is followed leads to a safe host; and this holds under every
chain of redirects exactly if the URL is refused. -/
theorem contacted_safe_iff (world : World) (url : String) :
    (∀ chain, (∀ host ∈ contacted world url chain, host.Safe) ↔
      ∀ parsedUrl, admitUrl world url = .ok parsedUrl →
        (∀ host, parsedUrl.host = some host → ¬ host.Disguised) ∧
        ∀ host ∈ followed maxRedirects chain, host.Safe) ∧
    ((∀ chain, ∀ host ∈ contacted world url chain, host.Safe) ↔
      ∃ failure, admitUrl world url = .error failure) := by
  simp only [mem_contacted_iff]
  constructor
  · intro chain
    constructor
    · intro safe parsedUrl admitted
      refine ⟨fun host named disguised => ?_, fun host contacted => ?_⟩
      · exact ((disguised_iff named).mp disguised).2 (safe host ⟨parsedUrl, admitted, .inl named⟩)
      · exact safe host ⟨parsedUrl, admitted, .inr contacted⟩
    · rintro safe host ⟨parsedUrl, admitted, named | contacted⟩
      · by_contra exposed
        have disguised := (disguised_iff named).mpr ⟨admitUrl_ok admitted, exposed⟩
        exact (safe parsedUrl admitted).1 host named disguised
      · exact (safe parsedUrl admitted).2 host contacted
  · constructor
    · intro safe
      cases admitted : admitUrl world url with
      | error failure => exact ⟨failure, rfl⟩
      | ok parsedUrl =>
        -- any URL that is let through may answer with a redirect to the metadata service
        have followedThere : Host.ipv4 169 254 169 254 ∈ followed maxRedirects [metadataUrl] := by decide
        have reserved : ¬ (Host.ipv4 169 254 169 254).Safe := by decide
        exact absurd (safe [metadataUrl] _ ⟨parsedUrl, admitted, .inr followedThere⟩) reserved
    · rintro ⟨failure, refused⟩ chain host ⟨parsedUrl, admitted, -⟩
      cases refused.symm.trans admitted

def mappedPrivate : Vector UInt16 8 := #v[0, 0, 0, 0, 0, 0xffff, 0x0a00, 0x0001]

def openWorld : World := { fixedWorld [] with
  parseUrl := fun url =>
    if url = "https://example.com/" then
      some ⟨"https", some (.domain "example.com"), some "example.com"⟩
    else if url = "https://[::ffff:10.0.0.1]/" then
      some ⟨"https", some (.ipv6 mappedPrivate), some "[::ffff:a00:1]"⟩
    else if url = "https://localhost./" then
      some ⟨"https", some (.domain "localhost."), some "localhost."⟩
    else none }

/-- A redirect leads to the metadata service; a private address is contacted in its IPv6 spelling; and so
is `localhost` with the dot behind it. -/
theorem reserved_hosts_contacted :
    (contacted openWorld "https://example.com/" [metadataUrl] =
        [.domain "example.com", .ipv4 169 254 169 254] ∧ ¬ (Host.ipv4 169 254 169 254).Safe) ∧
    (contacted openWorld "https://[::ffff:10.0.0.1]/" [] = [.ipv6 mappedPrivate] ∧
      ¬ (Host.ipv6 mappedPrivate).Safe) ∧
    (contacted openWorld "https://localhost./" [] = [.domain "localhost."] ∧
      ¬ (Host.domain "localhost.").Safe) := by
  decide +kernel

end OpenHttpa.Oracle
