import Mathlib.Data.List.TakeWhile
import Nightshift.Lib.JsonText
import Nightshift.OperationalRefusal

/-!
# Extraction of the signed body

The signature is checked over the bytes of one member of the record, taken by a
hand-written scan, and everything else reads the parsed record. On a JSON object
text whose member names decode, the scan finds the member the parser finds.
-/

namespace Nightshift

open Checked OperationalLineage
open JsonText (Blank Quoted Value Delimited Member IsObject commaSeparated objectText)

namespace OperationalLineage

variable {w : LineagePlatform} {key : String}

/-! ## One turn of the member loop -/

/-- One turn: the end of the object, or the bytes behind a comma. -/
def memberTurn (w : LineagePlatform) (key : String) (found : Option Bytes) (bytes : Bytes) :
    Except String ((Option Bytes × Bytes) ⊕ (Option Bytes × Bytes)) :=
  match skipWs bytes with
  | 0x7d :: rest => .ok (.inl (found, rest))
  | cursor => do
    let (quoted, rest) ← stringEnd cursor
    let name ← mapErr ("JSON object member name: " ++ ·) (w.parseName quoted)
    match skipWs rest with
    | 0x3a :: rest => do
      let value := skipWs rest
      let parsed ← okOr (w.nextValue value) "JSON object member lacks value"
      let length ← mapErr ("JSON object member value: " ++ ·) parsed
      let found ← (if name == key then do
          refuseIf found.isSome ("duplicate exact object field " ++ key)
          refuseIf (value.head? != some 0x7b) ("exact field " ++ key ++ " is not an object")
          .ok (some (value.take length))
        else .ok found : Except String (Option Bytes))
      match skipWs (value.drop length) with
      | 0x2c :: rest => .ok (.inr (found, rest))
      | 0x7d :: rest => .ok (.inl (found, rest))
      | _ => .error "JSON object member lacks comma or closing brace"
    | _ => .error "JSON object member lacks colon"

theorem extractMembers_succ (turns : Nat) (found : Option Bytes) (bytes : Bytes) :
    extractMembers w key (turns + 1) found bytes = (memberTurn w key found bytes >>= fun next =>
      match next with
      | .inl done => .ok done
      | .inr (found, rest) => extractMembers w key turns found rest) := by
  rw [extractMembers]
  split
  next rest hclose =>
    simp only [memberTurn, hclose]
    rfl
  next cursor hopen =>
    rw [memberTurn]
    split
    next rest hclose => exact absurd hclose (hopen rest)
    next =>
      simp only [bind_assoc]
      congr 1
      funext parts
      obtain ⟨quoted, behind⟩ := parts
      dsimp only
      congr 1
      funext name
      split
      next rest hcolon =>
        simp only [hcolon, bind_assoc]
        congr 1
        funext parsed
        congr 1
        funext length
        congr 1
        funext found
        split
        next rest hcomma => simp only [hcomma, ok_bind]
        next rest hend => simp only [hend, ok_bind]
        next hcomma hend =>
          -- where both sides share one match, it is already split in both
          first
          | rfl
          | split
            next rest heq => exact absurd heq (hcomma rest)
            next rest heq => exact absurd heq (hend rest)
            next => rfl
      next hcolon =>
        first
        | rfl
        | split
          next rest heq => exact absurd heq (hcolon rest)
          next => rfl

/-! ## The loop ends -/

theorem suffix_stringEndFrom {escaped : Bool} {bytes : Bytes} {parts : Bytes × Bytes}
    (h : stringEndFrom escaped bytes = some parts) : parts.2 <:+ bytes := by
  induction bytes generalizing escaped parts with
  | nil => cases h
  | cons b rest ih =>
    rw [stringEndFrom] at h
    split at h
    · obtain rfl := Option.some.inj h
      exact List.suffix_cons b rest
    · obtain ⟨parts', hparts, rfl⟩ := Option.map_eq_some_iff.mp h
      exact (ih hparts).trans (List.suffix_cons b rest)

theorem suffix_stringEnd {bytes : Bytes} {parts : Bytes × Bytes} (h : stringEnd bytes = .ok parts) :
    parts.2 <:+ bytes := by
  unfold stringEnd at h
  split at h
  · rename_i rest
    cases hend : stringEndFrom false rest with
    | none => simp [hend, okOr, Except.map] at h
    | some parts' =>
      have hsuffix := suffix_stringEndFrom hend
      simp only [hend, okOr, Except.map, Except.ok.injEq] at h
      subst h
      exact hsuffix.trans (List.suffix_cons _ _)
  · cases h

/-- A turn leaves an end of its bytes, behind the closing brace or a comma. -/
theorem suffix_memberTurn {found : Option Bytes} {bytes : Bytes}
    {next : (Option Bytes × Bytes) ⊕ (Option Bytes × Bytes)}
    (h : memberTurn w key found bytes = .ok next) :
    (match next with
      | .inl (_, rest) => 0x7d :: rest
      | .inr (_, rest) => 0x2c :: rest) <:+ bytes := by
  have hskip : ∀ bytes : Bytes, skipWs bytes <:+ bytes := fun _ => List.dropWhile_suffix _
  rw [memberTurn] at h
  split at h
  next rest hclose =>
    obtain rfl := Except.ok.inj h
    have hsuffix := hskip bytes
    rwa [hclose] at hsuffix
  next cursor _ =>
    simp only [bind_eq_ok] at h
    obtain ⟨⟨quoted, behind⟩, hquoted, name, -, h⟩ := h
    have hbehind : behind <:+ bytes := (suffix_stringEnd hquoted).trans (hskip bytes)
    dsimp only at h
    split at h
    next value hvalue =>
      simp only [bind_eq_ok] at h
      obtain ⟨parsed, -, length, -, f, -, h⟩ := h
      have hvalueSuffix : value <:+ behind := by
        have hcolon := hskip behind
        rw [hvalue] at hcolon
        exact (List.suffix_cons _ _).trans hcolon
      have htail : skipWs ((skipWs value).drop length) <:+ bytes :=
        (hskip _).trans ((List.drop_suffix _ _).trans
          ((hskip value).trans (hvalueSuffix.trans hbehind)))
      split at h
      next rest hcomma =>
        obtain rfl := Except.ok.inj h
        rwa [hcomma] at htail
      next rest hend =>
        obtain rfl := Except.ok.inj h
        rwa [hend] at htail
      next => cases h
    next => cases h

/-- A turn that goes on leaves fewer bytes. -/
theorem length_memberTurn {found found' : Option Bytes} {bytes rest : Bytes}
    (h : memberTurn w key found bytes = .ok (.inr (found', rest))) :
    rest.length < bytes.length := by
  have hlength := (suffix_memberTurn h).length_le
  rwa [List.length_cons] at hlength

theorem suffix_extractMembers {turns : Nat} {found found' : Option Bytes} {bytes rest : Bytes}
    (h : extractMembers w key turns found bytes = .ok (found', rest)) :
    0x7d :: rest <:+ bytes := by
  induction turns generalizing found bytes with
  | zero => cases h
  | succ turns ih =>
    rw [extractMembers_succ, bind_eq_ok] at h
    obtain ⟨next, hturn, hnext⟩ := h
    have hsuffix := suffix_memberTurn hturn
    cases next with
    | inl done =>
      obtain rfl := Except.ok.inj hnext
      exact hsuffix
    | inr parts => exact (ih hnext).trans ((List.suffix_cons _ _).trans hsuffix)

/-- Behind the closing brace of an accepted text are blanks only. -/
theorem extractObjectField_ends {bytes value : Bytes}
    (h : extractObjectField w bytes key = .ok value) :
    ∃ text trail, bytes = text ++ 0x7d :: trail ∧ Blank trail := by
  rw [extractObjectField] at h
  split at h
  next rest hopen =>
    simp only [bind_eq_ok] at h
    obtain ⟨⟨found, trail⟩, hloop, _, htrail, -⟩ := h
    rw [refuseIf_eq_ok, Bool.not_eq_false', List.isEmpty_iff, skipWs,
      List.dropWhile_eq_nil_iff] at htrail
    have hrest : rest <:+ bytes := by
      have hskip : skipWs bytes <:+ bytes := List.dropWhile_suffix _
      rw [hopen] at hskip
      exact (List.suffix_cons _ _).trans hskip
    obtain ⟨text, htext⟩ := (suffix_extractMembers hloop).trans hrest
    exact ⟨text, trail, htext.symm, htrail⟩
  next => cases h

/-- Once there are more turns than bytes their number does not matter. -/
theorem extractMembers_turns {turns turns' : Nat} {found : Option Bytes} {bytes : Bytes}
    (h : bytes.length < turns) (h' : bytes.length < turns') :
    extractMembers w key turns found bytes = extractMembers w key turns' found bytes := by
  induction turns generalizing turns' found bytes with
  | zero => omega
  | succ turns ih =>
    obtain ⟨turns', rfl⟩ : ∃ n, turns' = n + 1 := ⟨turns' - 1, by omega⟩
    rw [extractMembers_succ, extractMembers_succ]
    cases hturn : memberTurn w key found bytes with
    | error e => rfl
    | ok next =>
      cases next with
      | inl done => rfl
      | inr parts =>
        obtain ⟨found', rest⟩ := parts
        have hshorter := length_memberTurn hturn
        exact ih (by omega) (by omega)

/-- The extraction with a bound of its own on the turns. -/
def extractWithin (w : LineagePlatform) (turns : Nat) (bytes : Bytes) (key : String) :
    Except String Bytes :=
  match skipWs bytes with
  | 0x7b :: rest => do
    let (found, rest) ← extractMembers w key turns none rest
    refuseIf (!(skipWs rest).isEmpty) "trailing bytes after exact artifact object"
    okOr found ("missing exact object field " ++ key)
  | _ => .error "exact artifact root is not an object"

theorem extractWithin_eq {turns : Nat} {bytes : Bytes} (h : bytes.length ≤ turns) :
    extractWithin w turns bytes key = extractObjectField w bytes key := by
  rw [extractWithin]
  split
  next rest hopen =>
    have hlength : (skipWs bytes).length ≤ bytes.length := (List.dropWhile_suffix _).length_le
    rw [hopen, List.length_cons] at hlength
    have hsame := @extractMembers_turns w key turns bytes.length none rest (by omega) (by omega)
    simp only [extractObjectField, hopen, hsame]
  next hother =>
    rw [extractObjectField]
    split
    next rest hopen => exact absurd hopen (hother rest)
    next => rfl

/-! ## A member of the grammar takes one turn -/

/-- The value scanner consumes exactly one JSON value and reports its length. -/
def ScansValues (w : LineagePlatform) : Prop :=
  ∀ v rest, Value v → Delimited rest → w.nextValue (v ++ rest) = some (.ok v.length)

theorem skipWs_blank {blank : Bytes} (h : Blank blank) (rest : Bytes) :
    skipWs (blank ++ rest) = skipWs rest :=
  JsonText.dropWhile_blank h rest

theorem skipWs_mark {b : UInt8} (h : isJsonSpace b = false) (rest : Bytes) :
    skipWs (b :: rest) = b :: rest := by
  rw [skipWs, List.dropWhile_cons_of_neg (by simp [h])]

theorem stringEndFrom_body {body : Bytes} (h : JsonText.Body body) (rest : Bytes) :
    stringEndFrom false (body ++ 0x22 :: rest) = some (body ++ [0x22], rest) := by
  have hplain : ∀ {b : UInt8} {bytes : Bytes} {parts : Bytes × Bytes}, b ≠ 0x22 → b ≠ 0x5c →
      stringEndFrom false bytes = some parts →
        stringEndFrom false (b :: bytes) = some (b :: parts.1, parts.2) := by
    intro b bytes parts hquote hslash hparts
    have hb : (b == 0x5c) = false := beq_eq_false_iff_ne.mpr hslash
    simp [stringEndFrom, hquote, hb, hparts]
  have hescape : ∀ {e : UInt8} {bytes : Bytes} {parts : Bytes × Bytes},
      stringEndFrom false bytes = some parts →
        stringEndFrom false (0x5c :: e :: bytes) = some (0x5c :: e :: parts.1, parts.2) := by
    intro e bytes parts hparts
    simp [stringEndFrom, hparts]
  induction h with
  | nil => simp [stringEndFrom]
  | plain hb _ ih => exact hplain hb.2.1 hb.2.2 ih
  | escape he _ ih => exact hescape ih
  | unicode hex _ ih =>
    obtain ⟨hp, hq, hr, hs⟩ := hex
    have hlast := hplain (JsonText.hexDigit_ne hs).2 (JsonText.hexDigit_ne hs).1 ih
    have hthird := hplain (JsonText.hexDigit_ne hr).2 (JsonText.hexDigit_ne hr).1 hlast
    have hsecond := hplain (JsonText.hexDigit_ne hq).2 (JsonText.hexDigit_ne hq).1 hthird
    have hfirst := hplain (JsonText.hexDigit_ne hp).2 (JsonText.hexDigit_ne hp).1 hsecond
    exact hescape hfirst

theorem stringEnd_quoted {quoted : Bytes} (h : Quoted quoted) (rest : Bytes) :
    stringEnd (quoted ++ rest) = .ok (quoted, rest) := by
  obtain ⟨body, hbody, rfl⟩ := h
  have hshape : 0x22 :: (body ++ [0x22]) ++ rest = 0x22 :: (body ++ 0x22 :: rest) := by simp
  rw [hshape, stringEnd, stringEndFrom_body hbody]
  rfl

/-- No value begins with a blank. -/
theorem skipWs_value {v : Bytes} (h : Value v) (rest : Bytes) : skipWs (v ++ rest) = v ++ rest := by
  have hscalar : ∀ {v : Bytes}, JsonText.Scalar v → skipWs (v ++ rest) = v ++ rest := by
    intro v hv
    cases v with
    | nil => exact absurd rfl hv.nonempty
    | cons b v =>
      have hdelimiter := JsonText.isDelimiter_of_isScalarByte (hv.bytes b List.mem_cons_self)
      simp only [JsonText.isDelimiter, Bool.or_eq_false_iff] at hdelimiter
      exact skipWs_mark hdelimiter.1.1.1 _
  cases h with
  | literal h => exact hscalar (JsonText.scalar_literal h)
  | number h => exact hscalar (JsonText.scalar_number h)
  | string h =>
    obtain ⟨body, -, rfl⟩ := h
    exact skipWs_mark (by decide) _
  | array blank items hblank hspaced h => exact skipWs_mark (by decide) _
  | object blank members hblank hnamed h => exact skipWs_mark (by decide) _

/-- What a turn does with a member: its name is decoded, and a member of the
wanted name must be the first one and an object. -/
def takeMember (w : LineagePlatform) (key : String) (found : Option Bytes) (m : Member) :
    Except String (Option Bytes) := do
  let name ← mapErr ("JSON object member name: " ++ ·) (w.parseName m.quoted)
  if name == key then do
    refuseIf found.isSome ("duplicate exact object field " ++ key)
    refuseIf (m.value.head? != some 0x7b) ("exact field " ++ key ++ " is not an object")
    .ok (some m.value)
  else .ok found

theorem memberTurn_member (hscan : ScansValues w) {m : Member} (hnamed : m.Named)
    (hvalue : Value m.value) (found : Option Bytes) {mark : UInt8} (rest : Bytes)
    (hmark : mark = 0x2c ∨ mark = 0x7d) :
    memberTurn w key found (m.text ++ mark :: rest) = (takeMember w key found m >>= fun found =>
      if mark = 0x2c then .ok (.inr (found, rest)) else .ok (.inl (found, rest))) := by
  have hdelimited : Delimited (m.behind ++ mark :: rest) := by
    refine JsonText.delimited_blank hnamed.behind fun b hb => ?_
    obtain rfl : mark = b := by simpa using hb
    rcases hmark with rfl | rfl <;> exact .inr (by decide)
  have hopen : skipWs (m.text ++ mark :: rest) = m.quoted ++ (m.behindName ++ 0x3a ::
      (m.beforeValue ++ (m.value ++ (m.behind ++ mark :: rest)))) := by
    obtain ⟨body, -, hbody⟩ := hnamed.quoted
    simp only [Member.text, List.append_assoc, List.cons_append]
    rw [skipWs_blank hnamed.before, hbody]
    exact skipWs_mark (by decide) _
  have hcolon : skipWs (m.behindName ++ 0x3a ::
      (m.beforeValue ++ (m.value ++ (m.behind ++ mark :: rest)))) =
        0x3a :: (m.beforeValue ++ (m.value ++ (m.behind ++ mark :: rest))) := by
    rw [skipWs_blank hnamed.behindName]
    exact skipWs_mark (by decide) _
  have hstart : skipWs (m.beforeValue ++ (m.value ++ (m.behind ++ mark :: rest))) =
      m.value ++ (m.behind ++ mark :: rest) := by
    rw [skipWs_blank hnamed.beforeValue, skipWs_value hvalue]
  have hend : skipWs (m.behind ++ mark :: rest) = mark :: rest := by
    rw [skipWs_blank hnamed.behind]
    rcases hmark with rfl | rfl <;> exact skipWs_mark (by decide) _
  have hhead : (m.value ++ (m.behind ++ mark :: rest)).head? = m.value.head? := by
    rw [List.head?_append_of_ne_nil _ hvalue.ne_nil]
  rw [memberTurn, hopen]
  split
  next rest' hclose =>
    obtain ⟨body, -, hbody⟩ := hnamed.quoted
    rw [hbody] at hclose
    exact absurd (List.cons.inj hclose).1 (by decide)
  next =>
    simp only [stringEnd_quoted hnamed.quoted, ok_bind, takeMember, bind_assoc, hcolon, hstart,
      hscan _ _ hvalue hdelimited, okOr, mapErr, hhead, List.take_left, List.drop_left, hend]
    congr 1
    funext name
    split
    next =>
      simp only [bind_assoc, ok_bind]
      congr 1
      funext _
      congr 1
      funext _
      rcases hmark with rfl | rfl <;> rfl
    next => rcases hmark with rfl | rfl <;> rfl

/-! ## The loop over the members -/

theorem extractMembers_blank {blank : Bytes} (h : Blank blank) (turns : Nat) (found : Option Bytes)
    (bytes : Bytes) :
    extractMembers w key (turns + 1) found (blank ++ bytes) =
      extractMembers w key (turns + 1) found bytes := by
  rw [extractMembers_succ, extractMembers_succ, memberTurn, memberTurn, skipWs_blank h]

theorem extractMembers_members (hscan : ScansValues w) {members : List Member} (hne : members ≠ [])
    (hnamed : ∀ m ∈ members, m.Named) (hvalues : ∀ m ∈ members, Value m.value) {turns : Nat}
    (hturns : members.length ≤ turns) (found : Option Bytes) (rest : Bytes) :
    extractMembers w key turns found (commaSeparated (members.map Member.text) ++ 0x7d :: rest) =
      (members.foldlM (takeMember w key) found >>= fun found => .ok (found, rest)) := by
  induction members generalizing turns found with
  | nil => exact absurd rfl hne
  | cons m members ih =>
    rw [List.length_cons] at hturns
    obtain ⟨turns, rfl⟩ : ∃ n, turns = n + 1 := ⟨turns - 1, by omega⟩
    have hm := hnamed m List.mem_cons_self
    have hv := hvalues m List.mem_cons_self
    rw [extractMembers_succ, List.foldlM_cons]
    cases members with
    | nil =>
      have hturn := @memberTurn_member w key hscan m hm hv found 0x7d rest (.inr rfl)
      simp only [List.map_cons, List.map_nil, commaSeparated, hturn, bind_assoc]
      congr 1
    | cons next members =>
      have hturn := @memberTurn_member w key hscan m hm hv found 0x2c
        (commaSeparated ((next :: members).map Member.text) ++ 0x7d :: rest) (.inl rfl)
      simp only [List.map_cons, commaSeparated, List.append_assoc, List.cons_append] at hturn ⊢
      simp only [hturn, bind_assoc]
      congr 1
      funext found'
      have hrest := @ih (List.cons_ne_nil _ _) (fun m hm => hnamed m (List.mem_cons_of_mem _ hm))
        (fun m hm => hvalues m (List.mem_cons_of_mem _ hm)) turns (by omega) found'
      simp only [List.map_cons] at hrest
      simp only [↓reduceIte, ok_bind, hrest]

/-- The extraction of an object text between any two byte strings, the first one
blank, is the fold over its members. -/
theorem extractObjectField_text (hscan : ScansValues w) {lead blank trail : Bytes}
    {members : List Member} (hlead : Blank lead) (h : IsObject members blank) :
    extractObjectField w (lead ++ objectText blank members ++ trail) key =
      (members.foldlM (takeMember w key) none >>= fun found => do
        refuseIf (!(skipWs trail).isEmpty) "trailing bytes after exact artifact object"
        okOr found ("missing exact object field " ++ key)) := by
  have hopen : skipWs (lead ++ objectText blank members ++ trail) = 0x7b ::
      (blank ++ (commaSeparated (members.map Member.text) ++ 0x7d :: trail)) := by
    rw [List.append_assoc, skipWs_blank hlead, objectText]
    simp only [List.cons_append, List.append_assoc, List.nil_append]
    exact skipWs_mark (by decide) _
  have hlength : members.length < (lead ++ objectText blank members ++ trail).length := by
    have hcontent := JsonText.length_le_commaSeparated (members.map Member.text)
    rw [List.length_map] at hcontent
    simp only [objectText, List.length_append, List.length_cons, List.length_nil]
    omega
  generalize (lead ++ objectText blank members ++ trail) = bytes at hopen hlength
  obtain ⟨turns, hturns⟩ : ∃ n, bytes.length = n + 1 := ⟨bytes.length - 1, by omega⟩
  have hloop : extractMembers w key bytes.length none
      (blank ++ (commaSeparated (members.map Member.text) ++ 0x7d :: trail)) =
        (members.foldlM (takeMember w key) none >>= fun found => .ok (found, trail)) := by
    rw [hturns, extractMembers_blank h.blank, ← hturns]
    by_cases hne : members = []
    · subst hne
      rw [hturns, extractMembers_succ, memberTurn]
      simp only [List.map_nil, commaSeparated, List.nil_append]
      rw [skipWs_mark (by decide)]
      rfl
    · exact extractMembers_members hscan hne h.named h.values hlength.le none trail
  rw [extractObjectField, hopen]
  simp only [hloop, bind_assoc, ok_bind]

/-! ## Which texts have a body -/

/-- The decoded name of a member. -/
def decodedName (w : LineagePlatform) (m : Member) : Option String :=
  (w.parseName m.quoted).toOption

/-- The members of the wanted name. -/
def membersNamed (w : LineagePlatform) (key : String) (members : List Member) : List Member :=
  members.filter fun m => decodedName w m == some key

theorem takeMember_eq_ok {found found' : Option Bytes} {m : Member} :
    takeMember w key found m = .ok found' ↔
      (∃ name, decodedName w m = some name ∧ name ≠ key ∧ found' = found) ∨
        (decodedName w m = some key ∧ found = none ∧ m.value.head? = some 0x7b ∧
          found' = some m.value) := by
  simp only [takeMember, bind_eq_ok, mapErr_eq_ok, decodedName, toOption_eq_some]
  constructor
  · rintro ⟨name, hname, h⟩
    split at h
    next hsame =>
      obtain rfl := beq_iff_eq.mp hsame
      simp only [bind_eq_ok, refuseIf_eq_ok, Option.isSome_eq_false_iff, Option.isNone_iff_eq_none,
        bne_eq_false_iff_eq, Except.ok.injEq] at h
      obtain ⟨_, hfresh, _, hobject, hfound⟩ := h
      exact .inr ⟨hname, hfresh, hobject, hfound.symm⟩
    next hother =>
      exact .inl ⟨name, hname, fun hsame => hother (beq_iff_eq.mpr hsame), (Except.ok.inj h).symm⟩
  · rintro (⟨name, hname, hother, rfl⟩ | ⟨hname, rfl, hobject, rfl⟩)
    · refine ⟨name, hname, ?_⟩
      rw [if_neg (by simpa using hother)]
    · refine ⟨key, hname, ?_⟩
      simp [hobject]

/-- The fold over the members takes the one object of the wanted name. -/
theorem takeMembers_eq_ok {members : List Member} {found found' : Option Bytes} :
    members.foldlM (takeMember w key) found = .ok found' ↔
      (∀ m ∈ members, (decodedName w m).isSome = true) ∧
        ((membersNamed w key members = [] ∧ found' = found) ∨
          found = none ∧ ∃ m, membersNamed w key members = [m] ∧ m.value.head? = some 0x7b ∧
            found' = some m.value) := by
  induction members generalizing found with
  | nil =>
    rw [foldlM_nil_eq_ok]
    constructor
    · rintro rfl
      exact ⟨fun m hm => absurd hm List.not_mem_nil, .inl ⟨rfl, rfl⟩⟩
    · rintro ⟨-, ⟨-, rfl⟩ | ⟨-, m, hone, -⟩⟩
      · rfl
      · cases hone
  | cons m members ih =>
    simp only [foldlM_cons_eq_ok, takeMember_eq_ok, ih, List.forall_mem_cons]
    have hcons : membersNamed w key (m :: members) =
        if decodedName w m = some key then m :: membersNamed w key members
        else membersNamed w key members := by
      by_cases hname : decodedName w m = some key <;> simp [membersNamed, hname]
    constructor
    · rintro ⟨found'', ⟨name, hname, hother, rfl⟩ | ⟨hname, rfl, hobject, rfl⟩, hall, hrest⟩
      · have hne : ¬decodedName w m = some key := by
          rw [hname]
          exact fun hsame => hother (Option.some.inj hsame)
        rw [hcons, if_neg hne]
        exact ⟨⟨by rw [hname]; rfl, hall⟩, hrest⟩
      · rw [hcons, if_pos hname]
        refine ⟨⟨by rw [hname]; rfl, hall⟩, .inr ⟨rfl, m, ?_⟩⟩
        rcases hrest with ⟨hnone, rfl⟩ | ⟨hfound, -⟩
        · exact ⟨by rw [hnone], hobject, rfl⟩
        · cases hfound
    · rintro ⟨⟨hdecoded, hall⟩, hrest⟩
      by_cases hname : decodedName w m = some key
      · rw [hcons, if_pos hname] at hrest
        rcases hrest with ⟨hnone, -⟩ | ⟨rfl, m', hone, hobject, rfl⟩
        · cases hnone
        · obtain ⟨rfl, hnone⟩ := List.cons.inj hone
          exact ⟨some m.value, .inr ⟨hname, rfl, hobject, rfl⟩, hall, .inl ⟨hnone, rfl⟩⟩
      · rw [hcons, if_neg hname] at hrest
        obtain ⟨name, hdecoded⟩ := Option.isSome_iff_exists.mp hdecoded
        refine ⟨found, .inl ⟨name, hdecoded, fun hsame => hname (hsame ▸ hdecoded), rfl⟩, hall, hrest⟩

/-- An object of the grammar has exactly one member of the wanted name, and the
member's value is an object. -/
def HasOneObject (w : LineagePlatform) (key : String) (members : List Member) (value : Bytes) :
    Prop :=
  ∃ m, membersNamed w key members = [m] ∧ m.value = value ∧
    ∃ blank inner, IsObject inner blank ∧ value = objectText blank inner

theorem extractObjectField_eq_ok (hscan : ScansValues w) {lead blank trail value : Bytes}
    {members : List Member} (hlead : Blank lead) (h : IsObject members blank) :
    extractObjectField w (lead ++ objectText blank members ++ trail) key = .ok value ↔
      (∀ m ∈ members, (decodedName w m).isSome = true) ∧ Blank trail ∧
        HasOneObject w key members value := by
  have htrail : (!(skipWs trail).isEmpty) = false ↔ Blank trail := by
    rw [Bool.not_eq_false', List.isEmpty_iff, skipWs, List.dropWhile_eq_nil_iff]
    exact Iff.rfl
  have hobject : ∀ m ∈ members, (m.value.head? = some 0x7b ↔
      ∃ blank inner, IsObject inner blank ∧ m.value = objectText blank inner) :=
    fun m hm => (h.values m hm).head?_eq_brace_iff
  rw [extractObjectField_text hscan hlead h]
  simp only [bind_eq_ok, takeMembers_eq_ok, refuseIf_eq_ok, htrail, okOr_eq_ok]
  constructor
  · rintro ⟨found, ⟨hall, hone⟩, _, hblank, rfl⟩
    rcases hone with ⟨-, hnone⟩ | ⟨-, m, hone, hhead, hvalue⟩
    · cases hnone
    · have hm : m ∈ members := (List.mem_filter.mp (hone ▸ List.mem_singleton_self m)).1
      obtain rfl := Option.some.inj hvalue
      exact ⟨hall, hblank, m, hone, rfl, (hobject m hm).mp hhead⟩
  · rintro ⟨hall, hblank, m, hone, rfl, hinner⟩
    have hm : m ∈ members := (List.mem_filter.mp (hone ▸ List.mem_singleton_self m)).1
    exact ⟨some m.value,
      ⟨hall, .inr ⟨trivial, m, hone, (hobject m hm).mpr hinner, rfl⟩⟩, (), hblank, rfl⟩

end OperationalLineage

/-! ## A name that is no string -/

namespace OperationalBench

/-- The name `"\ud800"`, a surrogate without its pair. -/
def unpaired : Bytes := [0x22, 0x5c, 0x75, 0x64, 0x38, 0x30, 0x30, 0x22]

def bodyName : Bytes := [0x22, 0x62, 0x6f, 0x64, 0x79, 0x22]

/-- The bench with a real scanner and the two names. -/
def scanPlatform : LineagePlatform :=
  { lineageBench with
    parseName := fun quoted =>
      if quoted = bodyName then .ok "body"
      else .error "unexpected end of hex escape at line 1 column 7"
    nextValue := fun bytes => (JsonText.scan bytes).map .ok }

theorem scansValues : ScansValues scanPlatform := by
  intro v rest hvalue hrest
  have hscan := JsonText.scans_scan v rest hvalue hrest
  simp only [scanPlatform, hscan, Option.map_some]

/-- The member `"body":{}`. -/
def bodyMember : Member := ⟨[], bodyName, [], [], objectText [] [], []⟩

/-- The member `"\ud800":0`. -/
def unpairedMember : Member := ⟨[], unpaired, [], [], [0x30], []⟩

theorem empty_isObject : IsObject [] [] :=
  ⟨fun _ h => absurd h List.not_mem_nil, fun _ h => absurd h List.not_mem_nil,
    fun _ h => absurd h List.not_mem_nil⟩

theorem bodyMember_named : bodyMember.Named := by
  have hblank : Blank [] := fun _ h => absurd h List.not_mem_nil
  have hplain : ∀ b ∈ ([0x62, 0x6f, 0x64, 0x79] : Bytes), 0x20 ≤ b ∧ b ≠ 0x22 ∧ b ≠ 0x5c := by
    decide +kernel
  refine ⟨hblank, ⟨[0x62, 0x6f, 0x64, 0x79], ?_, rfl⟩, hblank, hblank, hblank⟩
  exact .plain (hplain _ (by decide)) (.plain (hplain _ (by decide))
    (.plain (hplain _ (by decide)) (.plain (hplain _ (by decide)) .nil)))

theorem bodyMember_value : Value bodyMember.value :=
  .object [] [] empty_isObject.blank empty_isObject.named empty_isObject.values

theorem body_isObject : IsObject [bodyMember] [] := by
  refine ⟨fun _ h => absurd h List.not_mem_nil, fun m hm => ?_, fun m hm => ?_⟩
  · rw [List.mem_singleton.mp hm]
    exact bodyMember_named
  · rw [List.mem_singleton.mp hm]
    exact bodyMember_value

theorem unpaired_isObject : IsObject [unpairedMember, bodyMember] [] := by
  have hblank : Blank [] := fun _ h => absurd h List.not_mem_nil
  have hnumber : JsonText.Number [0x30] :=
    ⟨[], [0x30], [], [], rfl, .inl rfl, .inl rfl, .inl rfl, .inl rfl⟩
  have hquoted : Quoted unpaired := ⟨_, .unicode (by decide) .nil, rfl⟩
  refine ⟨hblank, fun m hm => ?_, fun m hm => ?_⟩
  · rcases List.mem_cons.mp hm with rfl | hm
    · exact ⟨hblank, hquoted, hblank, hblank, hblank⟩
    · exact body_isObject.named m hm
  · rcases List.mem_cons.mp hm with rfl | hm
    · exact .number hnumber
    · exact body_isObject.values m hm

theorem unpaired_hasOneObject :
    HasOneObject scanPlatform "body" [unpairedMember, bodyMember] (objectText [] []) :=
  ⟨bodyMember, by decide, rfl, [], [], empty_isObject, rfl⟩

end OperationalBench

end Nightshift
