import ConstrainedDecoding.Proofs.HostNames
import ConstrainedDecoding.Proofs.JsonText
import ConstrainedDecoding.Url.Resolve

/-!
# Origins of URLs

A URL with a changed target is read again from its parts. That keeps the origin, the case of letters
in the host apart (`Url.isSame_of_withTarget`), so what a client asks for first is at the origin of
its base.
-/

namespace ConstrainedDecoding

/-! ## Numbers read back -/

theorem trimBoth_eq_self {drop : Char → Bool} {content : List Char}
    (kept : ∀ c ∈ content, drop c = false) : Text.trimBoth drop content = content := by
  have same {chars : List Char} (kept : ∀ c ∈ chars, drop c = false) :
      chars.dropWhile drop = chars := by
    cases chars with
    | nil => rfl
    | cons c rest => rw [List.dropWhile_cons_of_neg (by simp [kept c List.mem_cons_self])]
  have keptBack : ∀ c ∈ content.reverse, drop c = false :=
    fun c member => kept c (List.mem_reverse.1 member)
  rw [Text.trimBoth, same kept, same keptBack, List.reverse_reverse]

theorem toNat_of_isDigit {c : Char} (digit : Json.isDigit c = true) :
    48 ≤ c.toNat ∧ c.toNat ≤ 57 := by
  simpa [Json.isDigit, Char.le_def, UInt32.le_iff_toNat_le] using digit

theorem digitValue?_of_isDigit {c : Char} (digit : Json.isDigit c = true) :
    Text.digitValue? c = some (c.toNat - 48) := by
  obtain ⟨above, below⟩ := toNat_of_isDigit digit
  have ascii : Punycode.isAscii c = true := decide_eq_true (by omega)
  exact Punycode.forall_isAscii
    (fun c => Json.isDigit c = true → Text.digitValue? c = some (c.toNat - 48))
    (by decide +kernel) ascii digit

theorem numeralDigits?_cons {digit? : Char → Option Nat} {c d : Char} {rest : List Char}
    (first : c ≠ '_') (second : d ≠ '_') : numeralDigits? digit? (c :: d :: rest) =
      (digit? c).bind fun value => (numeralDigits? digit? (d :: rest)).map (value :: ·) := by
  rw [numeralDigits?]
  · cases digit? c with
    | none => rfl
    | some value =>
        rw [Option.bind_eq_bind, Option.bind_some, Option.bind_some]
        split
        · contradiction
        · rename_i same
          exact absurd (List.cons.inj same).1 second
        · rfl
  · exact first

theorem numeralDigits?_of_isDigit {digits : List Char} (nonempty : digits ≠ [])
    (decimal : ∀ c ∈ digits, Json.isDigit c = true) :
    numeralDigits? Text.digitValue? digits = some (digits.map fun c => c.toNat - 48) := by
  have noUnderscore : ∀ c ∈ digits, c ≠ '_' := by
    rintro c member rfl
    exact absurd (decimal _ member) (by decide)
  induction digits with
  | nil => exact absurd rfl nonempty
  | cons c rest ih =>
      have value := digitValue?_of_isDigit (decimal c List.mem_cons_self)
      have first := noUnderscore c List.mem_cons_self
      cases rest with
      | nil =>
          rw [numeralDigits?, value]
          · rfl
          · exact first
      | cons d more =>
          obtain ⟨_, others⟩ := List.forall_mem_cons.1 decimal
          obtain ⟨_, otherMarks⟩ := List.forall_mem_cons.1 noUnderscore
          have second := noUnderscore d (List.mem_cons_of_mem _ List.mem_cons_self)
          rw [numeralDigits?_cons first second, value,
            ih (List.cons_ne_nil d more) others otherMarks]
          rfl

theorem isBlank_of_isDigit {c : Char} (digit : Json.isDigit c = true) : Text.isBlank c = false := by
  obtain ⟨above, below⟩ := toNat_of_isDigit digit
  have ascii : Punycode.isAscii c = true := decide_eq_true (by omega)
  exact Punycode.forall_isAscii (fun c => Json.isDigit c = true → Text.isBlank c = false)
    (by decide +kernel) ascii digit

/-- An integer that can be read back from its numeral is the same. -/
theorem eq_of_readInteger?_toString {value read : Int}
    (known : readInteger? (toString value) = some read) : read = value := by
  have decimal : ∀ c ∈ Nat.toDigits 10 value.natAbs, Json.isDigit c = true :=
    fun c member => Json.isDigit_of_mem_toDigits member
  have digits := numeralDigits?_of_isDigit Nat.toDigits_ne_nil decimal
  have magnitude : ofDigits ((Nat.toDigits 10 value.natAbs).map fun c => c.toNat - 48) =
      value.natAbs := Json.digitsValue_toDigits value.natAbs
  rw [readInteger?, Json.toList_toString] at known
  by_cases negative : value < 0
  · have unblank : ∀ c ∈ '-' :: Nat.toDigits 10 value.natAbs, Text.isBlank c = false :=
      List.forall_mem_cons.2 ⟨by decide, fun c member => isBlank_of_isDigit (decimal c member)⟩
    rw [if_pos (decide_eq_true negative), trimBoth_eq_self unblank, signedNumeral?, digits] at known
    simp only [Option.bind_eq_bind, Option.bind_some, magnitude] at known
    split at known
    · cases known
    · cases known
      rw [if_pos trivial]
      omega
  · have unblank : ∀ c ∈ Nat.toDigits 10 value.natAbs, Text.isBlank c = false :=
      fun c member => isBlank_of_isDigit (decimal c member)
    have unsigned : ¬ decide (value < 0) = true := by simpa using negative
    have noMinus (rest : List Char) : Nat.toDigits 10 value.natAbs = '-' :: rest → False :=
      fun same => absurd (decimal '-' (same ▸ List.mem_cons_self)) (by decide)
    have noPlus (rest : List Char) : Nat.toDigits 10 value.natAbs = '+' :: rest → False :=
      fun same => absurd (decimal '+' (same ▸ List.mem_cons_self)) (by decide)
    rw [if_neg unsigned, trimBoth_eq_self unblank, signedNumeral?, digits] at known
    · simp only [Option.bind_eq_bind, Option.bind_some, magnitude] at known
      split at known
      · cases known
      · cases known
        rw [if_neg Bool.false_ne_true]
        omega
    · exact noMinus
    · exact noPlus

/-! ## Cutting authorities -/

namespace UrlParts

variable {chars rest : List Char}

/-- The user information ends at the last mark. -/
theorem cutUserInfo_append (noAt : '@' ∉ rest) (info : List Char) :
    cutUserInfo (info ++ '@' :: rest) = (info, rest) := by
  have kept : ∀ c ∈ rest.reverse, (decide (c ≠ '@')) = true := by
    intro c member
    exact decide_eq_true fun same => noAt (same ▸ List.mem_reverse.1 member)
  have reversed : (info ++ '@' :: rest).reverse = rest.reverse ++ '@' :: info.reverse := by simp
  have contains : (info ++ '@' :: rest).contains '@' = true := by simp
  rw [cutUserInfo, if_pos contains, reversed, List.dropWhile_append_of_pos kept,
    List.takeWhile_append_of_pos kept, List.dropWhile_cons_of_neg (by simp),
    List.takeWhile_cons_of_neg (by simp)]
  simp

theorem cutUserInfo_of_noAt (noAt : '@' ∉ chars) : cutUserInfo chars = ([], chars) := by
  rw [cutUserInfo, if_neg (by simpa using noAt)]

theorem noAt_cutUserInfo (chars : List Char) : '@' ∉ (cutUserInfo chars).2 := by
  unfold cutUserInfo
  split
  · intro member
    have others := List.all_eq_true.1 List.all_takeWhile '@' (List.mem_reverse.1 member)
    simp at others
  · rename_i noAt
    simpa using noAt

/-- A host without colons ends where the port number begins. -/
theorem cutHost_of_noColon {host port : List Char} (noColon : ':' ∉ host)
    (noBracket : (host ++ port).head? ≠ some '[')
    (marked : port.head? = none ∨ port.head? = some ':') :
    cutHost (host ++ port) = (host, port) := by
  have kept : ∀ c ∈ host, (decide (c ≠ ':')) = true :=
    fun c member => decide_eq_true fun same => noColon (same ▸ member)
  have stops : port.takeWhile (· ≠ ':') = [] ∧ port.dropWhile (· ≠ ':') = port := by
    cases port with
    | nil => exact ⟨rfl, rfl⟩
    | cons c digits =>
        rcases marked with absent | colon
        · cases absent
        · cases colon
          exact ⟨rfl, rfl⟩
  unfold cutHost
  dsimp only
  rw [if_neg (fun both => noBracket both.1), List.takeWhile_append_of_pos kept,
    List.dropWhile_append_of_pos kept, stops.1, stops.2, List.append_nil]

/-- A host in brackets ends at the last bracket. -/
theorem cutHost_brackets {port : List Char} (noBracket : ']' ∉ port) (inner : List Char) :
    cutHost ('[' :: (inner ++ ']' :: port)) = ('[' :: (inner ++ [']']), port) := by
  have kept : ∀ c ∈ port.reverse, (decide (c ≠ ']')) = true := by
    intro c member
    exact decide_eq_true fun same => noBracket (same ▸ List.mem_reverse.1 member)
  have reversed : ('[' :: (inner ++ ']' :: port)).reverse =
      port.reverse ++ ']' :: (inner.reverse ++ ['[']) := by simp
  have behind : ('[' :: (inner ++ ']' :: port)).reverse.takeWhile (· ≠ ']') = port.reverse := by
    rw [reversed, List.takeWhile_append_of_pos kept, List.takeWhile_cons_of_neg (by simp),
      List.append_nil]
  have inFront : ('[' :: (inner ++ ']' :: port)).reverse.dropWhile (· ≠ ']') =
      ']' :: (inner.reverse ++ ['[']) := by
    rw [reversed, List.dropWhile_append_of_pos kept, List.dropWhile_cons_of_neg (by simp)]
  unfold cutHost
  dsimp only
  rw [inFront, behind, if_pos (by simp)]
  simp

theorem cutHost_sublist (chars : List Char) : (cutHost chars).1.Sublist chars := by
  unfold cutHost
  dsimp only
  split
  · have dropped := (List.dropWhile_sublist (l := chars.reverse) (· ≠ ']')).reverse
    rw [List.reverse_reverse] at dropped
    exact dropped
  · exact List.takeWhile_sublist _

end UrlParts

/-- Two origins that are the same but for the case of letters in the host. -/
structure Origin.IsSame (left right : Origin) : Prop where
  scheme : left.scheme = right.scheme
  host : Host.IsSame left.host right.host
  portNumber : left.portNumber = right.portNumber

theorem Origin.IsSame.trans {first second third : Origin} (left : first.IsSame second)
    (right : second.IsSame third) : first.IsSame third :=
  ⟨left.scheme.trans right.scheme, left.host.trans right.host,
    left.portNumber.trans right.portNumber⟩

/-! ## Reading a URL again -/

namespace Url

variable {parts : UrlParts} {url next : Url}

/-- What is known of a URL by the pieces that it was made from. -/
theorem of_ofPieces {userInfo host portText : String}
    (known : ofPieces parts userInfo host portText = .ok url) :
    url.scheme = Text.lowercase parts.scheme ∧ Host.normalize host = .ok url.host ∧
      readPort parts.scheme portText = .ok url.portNumber := by
  unfold ofPieces at known
  obtain ⟨_, _, known⟩ := bind_eq_ok.1 known
  obtain ⟨keptHost, normalized, known⟩ := bind_eq_ok.1 known
  obtain ⟨portNumber, portRead, known⟩ := bind_eq_ok.1 known
  obtain ⟨_, _, known⟩ := bind_eq_ok.1 known
  obtain ⟨_, _, known⟩ := bind_eq_ok.1 known
  obtain ⟨_, _, known⟩ := bind_eq_ok.1 known
  obtain ⟨_, _, known⟩ := bind_eq_ok.1 known
  cases known
  exact ⟨rfl, normalized, portRead⟩

/-- The host and the port number in the text of an authority. -/
def hostTextOf (authority : List Char) : List Char :=
  (UrlParts.cutHost (UrlParts.cutUserInfo authority).2).1

def portTextOf (authority : List Char) : List Char :=
  UrlParts.cutPort (UrlParts.cutHost (UrlParts.cutUserInfo authority).2).2

theorem of_ofParts (known : ofParts parts = .ok url) :
    url.scheme = Text.lowercase parts.scheme ∧
      Host.normalize (String.ofList (hostTextOf parts.authority.toList)) = .ok url.host ∧
      readPort parts.scheme (String.ofList (portTextOf parts.authority.toList)) =
        .ok url.portNumber :=
  of_ofPieces known

theorem isSettled_of_ofParts (known : ofParts parts = .ok url) :
    Host.IsSettled url.host.toList := by
  obtain ⟨_, normalized, _⟩ := of_ofParts known
  apply Host.isSettled_of_normalize normalized
  rw [String.toList_ofList]
  exact fun member => UrlParts.noAt_cutUserInfo _ ((UrlParts.cutHost_sublist _).subset member)

/-- The text of a port number, behind its colon. -/
def portText (portNumber : Option Int) : List Char :=
  (UrlParts.marked ":" (portNumber.map toString)).toList

theorem portText_some (portNumber : Int) :
    portText (some portNumber) = ':' :: (toString portNumber).toList := by
  simp [portText, UrlParts.marked, String.toList_append]

theorem notMem_portText {mark : Char} (noColon : mark ≠ ':') (noMinus : mark ≠ '-')
    (noDigit : Json.isDigit mark = false) (portNumber : Option Int) :
    mark ∉ portText portNumber := by
  cases portNumber with
  | none => exact List.not_mem_nil
  | some number =>
      have noDigits : mark ∉ Nat.toDigits 10 number.natAbs := by
        intro member
        rw [Json.isDigit_of_mem_toDigits member] at noDigit
        cases noDigit
      rw [portText_some, Json.toList_toString]
      split
      · simp [noColon, noMinus, noDigits]
      · simp [noColon, noDigits]

theorem head?_portText (portNumber : Option Int) :
    (portText portNumber).head? = none ∨ (portText portNumber).head? = some ':' := by
  cases portNumber with
  | none => exact .inl rfl
  | some number =>
      rw [portText_some]
      exact .inr rfl

theorem notMem_of_inHost {host : String} (inside : ∀ c ∈ host.toList, Percent.inHost c = true)
    {mark : Char} (strange : Percent.inHost mark = false) : mark ∉ host.toList := by
  intro member
  rw [inside mark member] at strange
  cases strange

theorem bracketed_of_inHost {host : String}
    (inside : ∀ c ∈ host.toList, Percent.inHost c = true) : bracketed host = host := by
  have noColon := notMem_of_inHost inside (show Percent.inHost ':' = false by decide)
  rw [bracketed, if_neg (by simpa using noColon)]

theorem bracketed_of_isIPv6 {host : String} (address : Host.isIPv6 host.toList = true) :
    bracketed host = "[" ++ host ++ "]" := by
  have colon := Host.colon_of_isIPv6 address
  rw [bracketed, if_pos (by simpa using colon)]

/-- A settled host is cut again as it was written. -/
theorem cutHost_of_isSettled {host : String} (settled : Host.IsSettled host.toList)
    (portNumber : Option Int) :
    UrlParts.cutHost ((bracketed host).toList ++ portText portNumber) =
      ((bracketed host).toList, portText portNumber) := by
  rcases settled with inside | ⟨address, _⟩
  · have noColon := notMem_of_inHost inside (show Percent.inHost ':' = false by decide)
    have noBracket := notMem_of_inHost inside (show Percent.inHost '[' = false by decide)
    rw [bracketed_of_inHost inside]
    apply UrlParts.cutHost_of_noColon noColon
    · cases content : host.toList with
      | nil =>
          rw [List.nil_append]
          rcases head?_portText portNumber with nothing | colon
          · rw [nothing]
            nofun
          · rw [colon]
            simp
      | cons c rest =>
          rw [List.cons_append, List.head?_cons]
          rintro ⟨⟩
          exact noBracket (content ▸ List.mem_cons_self)
    · exact head?_portText portNumber
  · have content : (bracketed host).toList = '[' :: (host.toList ++ [']']) := by
      rw [bracketed_of_isIPv6 address]
      simp [String.toList_append]
    have noBracket : ']' ∉ portText portNumber :=
      notMem_portText (by decide) (by decide) (by decide) portNumber
    have cut := UrlParts.cutHost_brackets noBracket host.toList
    rw [content]
    simpa using cut

theorem noAt_bracketed {host : String} (settled : Host.IsSettled host.toList) :
    '@' ∉ (bracketed host).toList := by
  have noAt : '@' ∉ host.toList := by
    rcases settled with inside | ⟨_, noAt⟩
    · intro member
      exact absurd (inside '@' member) (by decide)
    · exact noAt
  unfold bracketed
  split
  · simpa [String.toList_append] using noAt
  · exact noAt

theorem cutAuthority_toParts (settled : Host.IsSettled url.host.toList) :
    hostTextOf url.toParts.authority.toList = (bracketed url.host).toList ∧
      portTextOf url.toParts.authority.toList = (portText url.portNumber).drop 1 := by
  have noAt : '@' ∉ (bracketed url.host).toList ++ portText url.portNumber := by
    intro member
    rcases List.mem_append.1 member with inHost | inPort
    · exact noAt_bracketed settled inHost
    · exact notMem_portText (by decide) (by decide) (by decide) _ inPort
  have cut : (UrlParts.cutUserInfo url.toParts.authority.toList).2 =
      (bracketed url.host).toList ++ portText url.portNumber := by
    by_cases plain : url.userInfo.isEmpty = true
    · have written : url.toParts.authority.toList =
          (bracketed url.host).toList ++ portText url.portNumber := by
        simp [toParts, plain, hostAndPort, portText, String.toList_append]
      rw [written, UrlParts.cutUserInfo_of_noAt noAt]
    · have written : url.toParts.authority.toList = url.userInfo.toList ++
          '@' :: ((bracketed url.host).toList ++ portText url.portNumber) := by
        simp [toParts, plain, hostAndPort, portText, String.toList_append]
      rw [written, UrlParts.cutUserInfo_append noAt]
  have ported : UrlParts.cutPort (portText url.portNumber) =
      (portText url.portNumber).drop 1 := by
    cases url.portNumber with
    | none => rfl
    | some number => rw [portText_some, UrlParts.cutPort]; rfl
  rw [hostTextOf, portTextOf, cut, cutHost_of_isSettled settled]
  exact ⟨rfl, ported⟩

theorem isSame_of_normalize_bracketed {host again : String} (settled : Host.IsSettled host.toList)
    (known : Host.normalize (bracketed host) = .ok again) : Host.IsSame again host := by
  rcases settled with inside | ⟨address, _⟩
  · rw [bracketed_of_inHost inside] at known
    exact Host.isSame_of_normalize_name inside known
  · rw [bracketed_of_isIPv6 address, Host.normalize_brackets address] at known
    cases known
    rfl

/-- A port number that is read again is the same one, or implied. -/
theorem portNumber_of_readPort {scheme : String} {portNumber again : Option Int}
    (known : readPort scheme (String.ofList ((portText portNumber).drop 1)) = .ok again) :
    again.or (impliedPort? scheme) = portNumber.or (impliedPort? scheme) := by
  cases portNumber with
  | none =>
      cases known
      rfl
  | some number =>
      have written : String.ofList ((portText (some number)).drop 1) = toString number := by
        rw [portText_some, List.drop_succ_cons, List.drop_zero, String.ofList_toList]
      rw [written, readPort] at known
      split at known
      case isTrue empty =>
        obtain ⟨c, tail, _, first | minus⟩ := Json.exists_toString_eq number
        · rw [String.isEmpty_iff.1 empty] at first
          cases first
        · rw [String.isEmpty_iff.1 empty] at minus
          cases minus
      case isFalse =>
        split at known
        case h_1 => cases known
        case h_2 read reads =>
          cases eq_of_readInteger?_toString reads
          cases known
          split
          case isTrue implied =>
            rw [implied]
            rfl
          case isFalse => rfl

theorem lowercase_of_web {scheme : String} (web : scheme = "http" ∨ scheme = "https") :
    Text.lowercase scheme = scheme := by
  rcases web with rfl | rfl
  · decide +kernel
  · decide +kernel

theorem portNumber_origin (web : url.scheme = "http" ∨ url.scheme = "https") :
    url.origin.portNumber = url.portNumber.or (impliedPort? url.scheme) := by
  rw [origin, if_pos web]

/-- Reading a web URL again with another path, query or fragment keeps the origin. -/
theorem isSame_of_reread (settled : Host.IsSettled url.host.toList)
    (web : url.scheme = "http" ∨ url.scheme = "https") {path : String}
    {query fragment : Option String}
    (known : reread { url.toParts with path, query, fragment } = .ok next) :
    next.scheme = url.scheme ∧ next.origin.IsSame url.origin := by
  unfold reread at known
  split at known
  case isFalse => cases known
  case isTrue =>
    obtain ⟨scheme_eq, normalized, portRead⟩ := of_ofParts known
    obtain ⟨hostText, portText⟩ := cutAuthority_toParts settled
    have scheme : next.scheme = url.scheme := scheme_eq.trans (lowercase_of_web web)
    have nextWeb : next.scheme = "http" ∨ next.scheme = "https" := scheme ▸ web
    rw [hostText, String.ofList_toList] at normalized
    rw [portText] at portRead
    refine ⟨scheme, scheme, isSame_of_normalize_bracketed settled normalized, ?_⟩
    rw [portNumber_origin nextWeb, portNumber_origin web, scheme]
    exact portNumber_of_readPort portRead

theorem isSettled_of_reread {parts : UrlParts} (known : reread parts = .ok next) :
    Host.IsSettled next.host.toList := by
  unfold reread at known
  split at known
  case isFalse => cases known
  case isTrue => exact isSettled_of_ofParts known

theorem isSettled_of_ofText {text : String} (known : ofText text = .ok url) :
    Host.IsSettled url.host.toList := by
  unfold ofText at known
  dsimp only at known
  split at known
  · cases known
  · split at known
    · cases known
    · exact isSettled_of_ofParts known

/-! ## Appending to a base -/

/-- A URL with a settled host and a web scheme that is at an origin. -/
structure IsAt (origin : Origin) (url : Url) : Prop where
  settled : Host.IsSettled url.host.toList
  web : url.scheme = "http" ∨ url.scheme = "https"
  same : url.origin.IsSame origin

theorem IsAt.withTarget {origin : Origin} {target : String} (isAt : url.IsAt origin)
    (known : url.withTarget target = .ok next) : next.IsAt origin := by
  obtain ⟨scheme, same⟩ := isSame_of_reread isAt.settled isAt.web known
  exact ⟨isSettled_of_reread known, scheme ▸ isAt.web, same.trans isAt.same⟩

theorem IsAt.asBase {origin : Origin} (isAt : url.IsAt origin) (known : url.asBase = .ok next) :
    next.IsAt origin := by
  unfold Url.asBase at known
  split at known
  · cases known
    exact isAt
  · exact isAt.withTarget known

/-- A path does not name a scheme. -/
theorem scheme_of_slash {text : String} {rest : List Char} (slash : text.toList = '/' :: rest)
    (known : ofText text = .ok url) : url.scheme = "" := by
  unfold ofText at known
  dsimp only at known
  split at known
  · cases known
  · split at known
    · cases known
    · have cut : UrlParts.cutScheme ('/' :: rest) = ([], '/' :: rest) := rfl
      obtain ⟨scheme_eq, _, _⟩ := of_ofParts known
      rw [scheme_eq, slash, UrlParts.ofChars, cut]
      rfl

/-- A path is appended to a base at the origin of the base. -/
theorem IsAt.append {origin : Origin} {text : String} {rest : List Char}
    (slash : text.toList = '/' :: rest) (isAt : url.IsAt origin)
    (known : url.append text = .ok next) : next.IsAt origin := by
  unfold Url.append at known
  obtain ⟨given, reads, known⟩ := bind_eq_ok.1 known
  have relative : given.isAbsolute = false := by
    rw [isAbsolute, scheme_of_slash slash reads]
    rfl
  rw [relative] at known
  exact isAt.withTarget known

end Url

end ConstrainedDecoding
