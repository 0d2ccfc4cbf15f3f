import Banip.Lib.CString

/-!
# Inet — the texts `inet_pton` accepts

`inet_pton` accepts dotted quads of decimal octets without leading zeros for `AF_INET`, and for
`AF_INET6` eight groups of one to four hexadecimal digits, with at most one `::` for one or more
zero groups and an optional dotted quad in place of the last two groups.  The result is the address
in network byte order.

Beside the definitions stand the facts a caller needs about every accepted text: how long it can
be, how many bytes it yields, and that no text is accepted for both families.
-/

namespace Banip
namespace Lib

/-- The address families of `sockaddr`. -/
inductive Family where
  | inet
  | inet6
  | other (n : Nat)
deriving DecidableEq, Repr

namespace Family

/-- Bytes of an address of the family. -/
def size : Family → Nat
  | inet => 4
  | inet6 => 16
  | other _ => 0

/-- The longest prefix of an address of the family. -/
def maxPrefix (f : Family) : Nat := 8 * f.size

end Family

/-! ## Dotted quads -/

/-- A decimal octet: one to three digits, no leading zero, at most 255. -/
def octet? (g : Bytes) : Option Byte :=
  if g ≠ [] ∧ g.length ≤ 3 ∧ g.all isDigit ∧ (1 < g.length → g.head? ≠ some (chr '0')) ∧
      digitsValue g ≤ 255 then
    some (BitVec.ofNat 8 (digitsValue g))
  else none

/-- `inet_pton(AF_INET, s, _)`. -/
def inetPton4 (s : Bytes) : Option Bytes :=
  match s.splitOn (chr '.') with
  | [a, b, c, d] => do
      let a ← octet? a
      let b ← octet? b
      let c ← octet? c
      let d ← octet? d
      return [a, b, c, d]
  | _ => none

/-! ## Hexadecimal groups -/

/-- The value of a hexadecimal digit. -/
def hexDigit? (c : Byte) : Option Nat :=
  if 48 ≤ c.toNat ∧ c.toNat ≤ 57 then some (c.toNat - 48)
  else if 65 ≤ c.toNat ∧ c.toNat ≤ 70 then some (c.toNat - 55)
  else if 97 ≤ c.toNat ∧ c.toNat ≤ 102 then some (c.toNat - 87)
  else none

def hexValue (g : Bytes) : Nat := g.foldl (fun v c => 16 * v + (hexDigit? c).getD 0) 0

/-- A group of one to four hexadecimal digits, as two bytes. -/
def group? (g : Bytes) : Option Bytes :=
  if g ≠ [] ∧ g.length ≤ 4 ∧ g.all (fun c => (hexDigit? c).isSome) then
    some [BitVec.ofNat 8 (hexValue g / 256), BitVec.ofNat 8 (hexValue g)]
  else none

/-- Groups between colons; with `quad` the last one may be a dotted quad. -/
def groups? (quad : Bool) : List Bytes → Option Bytes
  | [] => some []
  | [g] => if quad then (group? g).or (inetPton4 g) else group? g
  | g :: gs => do
      let w ← group? g
      let ws ← groups? quad gs
      return w ++ ws

/-- One side of a `::`, which may be empty. -/
def side? (quad : Bool) (s : Bytes) : Option Bytes :=
  if s = [] then some [] else groups? quad (s.splitOn (chr ':'))

/-- The offset of the first `::`. -/
def doubleColon : Bytes → Option Nat
  | a :: b :: s =>
      if a = chr ':' ∧ b = chr ':' then some 0 else (doubleColon (b :: s)).map (· + 1)
  | _ => none

/-- `inet_pton(AF_INET6, s, _)`. -/
def inetPton6 (s : Bytes) : Option Bytes :=
  match doubleColon s with
  | none => do
      let ws ← groups? true (s.splitOn (chr ':'))
      if ws.length = 16 then return ws else none
  | some p => do
      let l ← side? false (s.take p)
      let r ← side? true (s.drop (p + 2))
      if l.length + r.length ≤ 14 then
        return l ++ List.replicate (16 - l.length - r.length) 0 ++ r
      else none

/-- `inet_pton`. -/
def inetPton (f : Family) (s : Bytes) : Option Bytes :=
  match f with
  | .inet => inetPton4 s
  | .inet6 => inetPton6 s
  | .other _ => none

example : inetPton .inet (str "192.0.2.10") = some [192, 0, 2, 10] := by decide

example : inetPton .inet6 (str "2001:db8::1:10.0.0.1") =
    some [32, 1, 13, 184, 0, 0, 0, 0, 0, 0, 0, 1, 10, 0, 0, 1] := by decide

/-! ## Fields -/

/-- Every byte of a text but the separators lies in exactly one field. -/
lemma splitOn_length (sep : Byte) (s : Bytes) :
    ((s.splitOn sep).map (fun g => g.length + 1)).sum = s.length + 1 := by
  induction s with
  | nil => simp
  | cons c s ih =>
    rw [List.splitOn_eq_splitOnP] at ih ⊢
    rw [List.splitOnP_cons_eq_if_modifyHead]
    split
    · simp [ih]
      omega
    · cases hgs : List.splitOnP (fun x => x == sep) s with
      | nil => exact absurd hgs (List.splitOnP_ne_nil _ _)
      | cons g gs =>
        rw [hgs] at ih
        simp at ih ⊢
        omega

lemma mem_of_mem_splitOn {sep c : Byte} {s : Bytes} (hc : c ∈ s) :
    c = sep ∨ ∃ g ∈ s.splitOn sep, c ∈ g := by
  induction s with
  | nil => cases hc
  | cons d s ih =>
    rw [List.splitOn_eq_splitOnP] at ih ⊢
    rw [List.splitOnP_cons_eq_if_modifyHead]
    cases hgs : List.splitOnP (fun x => x == sep) s with
    | nil => exact absurd hgs (List.splitOnP_ne_nil _ _)
    | cons g gs =>
      rw [hgs] at ih
      rcases List.mem_cons.1 hc with rfl | hcs
      · by_cases hsep : c = sep
        · exact Or.inl hsep
        · refine Or.inr ⟨c :: g, ?_, by simp⟩
          simp [hsep]
      · rcases ih hcs with h | ⟨g', hg', hcg'⟩
        · exact Or.inl h
        · right
          by_cases hsep : (d == sep) = true
          · exact ⟨g', by simp [hsep]; exact Or.inr (List.mem_cons.1 hg'), hcg'⟩
          · rcases List.mem_cons.1 hg' with rfl | hmem
            · exact ⟨d :: g', by simp [hsep], by simp [hcg']⟩
            · exact ⟨g', by simp [hsep, hmem], hcg'⟩

/-! ## What an accepted text looks like -/

lemma octet?_length {g : Bytes} {b : Byte} (h : octet? g = some b) : g.length ≤ 3 := by
  unfold octet? at h
  split at h
  · rename_i hg
    exact hg.2.1
  · cases h

lemma octet?_isDigit {g : Bytes} {b : Byte} (h : octet? g = some b) : ∀ c ∈ g, isDigit c := by
  unfold octet? at h
  split at h
  · rename_i hg
    exact List.all_eq_true.1 hg.2.2.1
  · cases h

/-- A dotted quad has four octets between its dots. -/
lemma inetPton4_fields {s bytes : Bytes} (h : inetPton4 s = some bytes) :
    ∃ a b c d, s.splitOn (chr '.') = [a, b, c, d] ∧ bytes.length = 4 ∧
      ∀ g ∈ [a, b, c, d], ∃ o, octet? g = some o := by
  unfold inetPton4 at h
  split at h
  · rename_i a b c d hs
    simp only [Option.bind_eq_bind, Option.bind_eq_some_iff, Option.pure_def,
      Option.some.injEq] at h
    rcases h with ⟨oa, ha, ob, hb, oc, hc, od, hd, rfl⟩
    refine ⟨a, b, c, d, hs, rfl, ?_⟩
    intro g hg
    simp only [List.mem_cons, List.not_mem_nil, or_false] at hg
    rcases hg with rfl | rfl | rfl | rfl
    · exact ⟨oa, ha⟩
    · exact ⟨ob, hb⟩
    · exact ⟨oc, hc⟩
    · exact ⟨od, hd⟩
  · cases h

lemma inetPton4_length {s bytes : Bytes} (h : inetPton4 s = some bytes) :
    s.length ≤ 15 ∧ bytes.length = 4 := by
  rcases inetPton4_fields h with ⟨a, b, c, d, hs, hlen, hoct⟩
  refine ⟨?_, hlen⟩
  have hsum := splitOn_length (chr '.') s
  have hbound : ∀ g ∈ [a, b, c, d], g.length ≤ 3 := fun g hg => by
    rcases hoct g hg with ⟨o, ho⟩
    exact octet?_length ho
  have ha := hbound a (by simp)
  have hb := hbound b (by simp)
  have hc := hbound c (by simp)
  have hd := hbound d (by simp)
  rw [hs] at hsum
  simp at hsum
  omega

lemma inetPton4_charset {s bytes : Bytes} (h : inetPton4 s = some bytes) :
    ∀ c ∈ s, c = chr '.' ∨ isDigit c := by
  rcases inetPton4_fields h with ⟨a, b, c, d, hs, -, hoct⟩
  intro x hx
  rcases mem_of_mem_splitOn hx with hsep | ⟨g, hg, hxg⟩
  · exact Or.inl hsep
  · rw [hs] at hg
    rcases hoct g hg with ⟨o, ho⟩
    exact Or.inr (octet?_isDigit ho x hxg)

lemma group?_length {g w : Bytes} (h : group? g = some w) : g.length ≤ 4 ∧ w.length = 2 := by
  unfold group? at h
  split at h
  · rename_i hg
    cases h
    exact ⟨hg.2.1, rfl⟩
  · cases h

/-- A field that may close a text: a group, or a dotted quad where one is allowed. -/
lemma groups?_singleton {quad : Bool} {g w : Bytes} (h : groups? quad [g] = some w) :
    group? g = some w ∨ quad = true ∧ inetPton4 g = some w := by
  unfold groups? at h
  cases quad with
  | false => exact Or.inl (by simpa using h)
  | true =>
    simp only [if_true] at h
    cases hg : group? g with
    | some v =>
      rw [hg, Option.some_or] at h
      exact Or.inl h
    | none =>
      rw [hg, Option.none_or] at h
      exact Or.inr ⟨rfl, h⟩

lemma groups?_singleton_length {quad : Bool} {g w : Bytes} (h : groups? quad [g] = some w) :
    2 * (g.length + 1) ≤ 5 * w.length + (if quad then 12 else 0) := by
  rcases groups?_singleton h with hgroup | ⟨rfl, hquad⟩
  · have := group?_length hgroup
    omega
  · -- fifteen bytes of text for four of address
    have := inetPton4_length hquad
    simp only [if_true]
    omega

/-- Two bytes of address take at most five bytes of text; only a dotted quad takes more. -/
lemma groups?_length {quad : Bool} {gs : List Bytes} {ws : Bytes} (h : groups? quad gs = some ws) :
    2 * (gs.map (fun g => g.length + 1)).sum ≤ 5 * ws.length + (if quad then 12 else 0) := by
  induction gs generalizing ws with
  | nil => simp
  | cons g gs ih =>
    -- only the last field may be a quad, so the allowance is carried to the end
    cases gs with
    | nil => simpa using groups?_singleton_length h
    | cons g' gs =>
      rw [groups?] at h
      · simp only [Option.bind_eq_bind, Option.bind_eq_some_iff, Option.pure_def,
          Option.some.injEq] at h
        rcases h with ⟨w, hw, ws', hws', rfl⟩
        have hhead := group?_length hw
        have htail := ih hws'
        simp only [List.map_cons, List.sum_cons, List.length_append] at htail ⊢
        omega
      · simp

lemma side?_length {quad : Bool} {s ws : Bytes} (h : side? quad s = some ws) :
    2 * s.length ≤ 5 * ws.length + (if quad then 10 else 0) := by
  unfold side? at h
  split at h
  · rename_i hs
    simp [hs]
  · have hlen := groups?_length h
    have hsum := splitOn_length (chr ':') s
    rw [hsum] at hlen
    cases quad
    · simp at hlen ⊢
      omega
    · simp at hlen ⊢
      omega

lemma doubleColon_lt {s : Bytes} {p : Nat} (h : doubleColon s = some p) : p + 2 ≤ s.length := by
  fun_induction doubleColon s generalizing p with
  | case1 a b s _ =>
    cases h
    simp
  | case2 a b s _ ih =>
    rcases Option.map_eq_some_iff.1 h with ⟨q, hq, rfl⟩
    have := ih hq
    simp at this ⊢
    omega
  | case3 s _ => cases h

/-- `INET6_ADDRSTRLEN` counts the terminator: no accepted text is longer than 45 bytes. -/
lemma inetPton6_length {s bytes : Bytes} (h : inetPton6 s = some bytes) :
    s.length ≤ 45 ∧ bytes.length = 16 := by
  unfold inetPton6 at h
  split at h
  · simp only [Option.bind_eq_bind, Option.bind_eq_some_iff] at h
    rcases h with ⟨ws, hws, h⟩
    split at h
    · rename_i hlen
      cases h
      have hbound := groups?_length hws
      rw [splitOn_length] at hbound
      simp only [if_true] at hbound
      exact ⟨by omega, hlen⟩
    · cases h
  · rename_i p hp
    simp only [Option.bind_eq_bind, Option.bind_eq_some_iff] at h
    rcases h with ⟨l, hl, r, hr, h⟩
    split at h
    · rename_i hlen
      cases h
      -- the two sides leave at least two bytes for the zeros that `::` stands for
      have hl' := side?_length hl
      have hr' := side?_length hr
      have hp' := doubleColon_lt hp
      simp only [List.length_take, List.length_drop, if_true] at hl' hr'
      simp at hl'
      refine ⟨by omega, ?_⟩
      simp
      omega
    · cases h

/-- An accepted text fits `INET6_ADDRSTRLEN` and yields the bytes of its family. -/
lemma inetPton_length {f : Family} {s bytes : Bytes} (h : inetPton f s = some bytes) :
    s.length ≤ 45 ∧ bytes.length = f.size := by
  cases f with
  | inet =>
    have := inetPton4_length h
    simp only [Family.size]
    omega
  | inet6 => exact inetPton6_length h
  | other n => cases h

/-! ## The characters of an accepted text -/

/-- The characters of `[0-9A-Fa-f:.]`. -/
def addressChar (c : Byte) : Bool := (hexDigit? c).isSome || c = chr ':' || c = chr '.'

lemma addressChar_of_isDigit {c : Byte} (h : isDigit c) : addressChar c := by
  revert c
  decide

lemma inetPton4_addressChar {s bytes : Bytes} (h : inetPton4 s = some bytes) :
    ∀ c ∈ s, addressChar c := by
  intro c hc
  rcases inetPton4_charset h c hc with rfl | hdigit
  · decide
  · exact addressChar_of_isDigit hdigit

lemma group?_addressChar {g w : Bytes} (h : group? g = some w) : ∀ c ∈ g, addressChar c := by
  unfold group? at h
  split at h
  · rename_i hg
    intro c hc
    have hhex := List.all_eq_true.1 hg.2.2 c hc
    simp [addressChar, hhex]
  · cases h

lemma groups?_addressChar {quad : Bool} {gs : List Bytes} {ws : Bytes}
    (h : groups? quad gs = some ws) : ∀ g ∈ gs, ∀ c ∈ g, addressChar c := by
  induction gs generalizing ws with
  | nil => simp
  | cons g gs ih =>
    cases gs with
    | nil =>
      rw [List.forall_mem_singleton]
      rcases groups?_singleton h with hgroup | ⟨-, hquad⟩
      · exact group?_addressChar hgroup
      · exact inetPton4_addressChar hquad
    | cons g' gs =>
      rw [groups?] at h
      · simp only [Option.bind_eq_bind, Option.bind_eq_some_iff, Option.pure_def,
          Option.some.injEq] at h
        rcases h with ⟨w, hw, ws', hws', -⟩
        exact List.forall_mem_cons.2 ⟨group?_addressChar hw, ih hws'⟩
      · simp

/-- Fields of address characters between colons make a text of address characters. -/
lemma splitOn_addressChar {s : Bytes} (h : ∀ g ∈ s.splitOn (chr ':'), ∀ c ∈ g, addressChar c) :
    ∀ c ∈ s, addressChar c := by
  intro c hc
  have hmem : c = chr ':' ∨ ∃ g ∈ s.splitOn (chr ':'), c ∈ g := mem_of_mem_splitOn hc
  rcases hmem with rfl | ⟨g, hg, hcg⟩
  · decide
  · exact h g hg c hcg

lemma side?_addressChar {quad : Bool} {s ws : Bytes} (h : side? quad s = some ws) :
    ∀ c ∈ s, addressChar c := by
  unfold side? at h
  split at h
  · rename_i hs
    simp [hs]
  · exact splitOn_addressChar (groups?_addressChar h)

/-- The two bytes at the offset of `::` are colons. -/
lemma doubleColon_split {s : Bytes} {p : Nat} (h : doubleColon s = some p) :
    s = s.take p ++ chr ':' :: chr ':' :: s.drop (p + 2) := by
  fun_induction doubleColon s generalizing p with
  | case1 a b s hab =>
    cases h
    simp [hab.1, hab.2]
  | case2 a b s _ ih =>
    rcases Option.map_eq_some_iff.1 h with ⟨q, hq, rfl⟩
    have hrest := ih hq
    rw [List.take_succ_cons, List.cons_append, List.cons.injEq]
    refine ⟨rfl, ?_⟩
    rw [show q + 1 + 2 = q + 2 + 1 by omega, List.drop_succ_cons]
    exact hrest
  | case3 s _ => cases h

lemma inetPton6_addressChar {s bytes : Bytes} (h : inetPton6 s = some bytes) :
    ∀ c ∈ s, addressChar c := by
  unfold inetPton6 at h
  split at h
  · simp only [Option.bind_eq_bind, Option.bind_eq_some_iff] at h
    rcases h with ⟨ws, hws, -⟩
    exact splitOn_addressChar (groups?_addressChar hws)
  · rename_i p hp
    simp only [Option.bind_eq_bind, Option.bind_eq_some_iff] at h
    rcases h with ⟨l, hl, r, hr, -⟩
    rw [doubleColon_split hp]
    refine List.forall_mem_append.2 ⟨side?_addressChar hl, ?_⟩
    exact List.forall_mem_cons.2 ⟨by decide, List.forall_mem_cons.2 ⟨by decide, side?_addressChar hr⟩⟩

/-- An accepted text is not empty and consists of address characters. -/
lemma inetPton_text {f : Family} {s bytes : Bytes} (h : inetPton f s = some bytes) :
    s ≠ [] ∧ ∀ c ∈ s, addressChar c := by
  cases f with
  | inet =>
    refine ⟨?_, inetPton4_addressChar h⟩
    rintro rfl
    cases h
  | inet6 =>
    refine ⟨?_, inetPton6_addressChar h⟩
    rintro rfl
    cases h
  | other n => cases h

/-! ## The families do not overlap -/

lemma doubleColon_colon {s : Bytes} {p : Nat} (h : doubleColon s = some p) : chr ':' ∈ s := by
  fun_induction doubleColon s generalizing p with
  | case1 a b s hab => simp [hab.1]
  | case2 a b s _ ih =>
    rcases Option.map_eq_some_iff.1 h with ⟨q, hq, -⟩
    exact List.mem_cons_of_mem _ (ih hq)
  | case3 s _ => cases h

lemma inetPton6_colon {s bytes : Bytes} (h : inetPton6 s = some bytes) : chr ':' ∈ s := by
  by_contra hc
  unfold inetPton6 at h
  split at h
  · -- a text without a colon is a single field, which yields two or four bytes
    have hs : s.splitOn (chr ':') = [s] := by
      rw [List.splitOn_eq_splitOnP]
      refine List.splitOnP_eq_singleton ?_
      intro x hx
      simpa using fun hxc : x = chr ':' => hc (hxc ▸ hx)
    simp only [hs, Option.bind_eq_bind, Option.bind_eq_some_iff] at h
    rcases h with ⟨ws, hws, h⟩
    have hle : ws.length ≤ 4 := by
      rcases groups?_singleton hws with hgroup | ⟨-, hquad⟩
      · have := group?_length hgroup
        omega
      · have := inetPton4_length hquad
        omega
    split at h
    · omega
    · cases h
  · rename_i p hp
    exact hc (doubleColon_colon hp)

lemma inetPton4_no_colon {s bytes : Bytes} (h : inetPton4 s = some bytes) : chr ':' ∉ s := by
  intro hc
  rcases inetPton4_charset h _ hc with hdot | hdigit
  · exact absurd hdot (by decide)
  · exact absurd hdigit (by decide)

/-- No text is an address of two families. -/
theorem inetPton_family_unique {f g : Family} {s a b : Bytes} (hf : inetPton f s = some a)
    (hg : inetPton g s = some b) : f = g := by
  cases f with
  | other n => cases hf
  | inet =>
    cases g with
    | inet => rfl
    | inet6 => exact absurd (inetPton6_colon hg) (inetPton4_no_colon hf)
    | other n => cases hg
  | inet6 =>
    cases g with
    | inet => exact absurd (inetPton6_colon hf) (inetPton4_no_colon hg)
    | inet6 => rfl
    | other n => cases hg

/-! ## The resolver -/

/-- One entry of the list `getaddrinfo` returns; `aiAddr` is the memory of its `sockaddr`. -/
structure AddrInfo where
  aiFamily : Family
  aiSocktype : Nat
  aiProtocol : Nat
  aiAddr : Option Bytes
deriving DecidableEq, Repr

/-- The address inside a `sockaddr_in` or a `sockaddr_in6`. -/
def sockaddrAddr (f : Family) (sa : Bytes) : Bytes :=
  match f with
  | .inet => (sa.drop 4).take 4
  | .inet6 => (sa.drop 8).take 16
  | .other _ => []

/-- `sizeof (struct sockaddr)`. -/
def sockaddrSize : Nat := 16

/-- The library calls whose results depend on the system the program runs on. -/
structure LibC where
  /-- `getaddrinfo(node, NULL, hints, &res)`, with or without `AI_NUMERICHOST` in the hints.  A
  lookup that succeeds returns at least one entry. -/
  getaddrinfo : Bool → Bytes → Except Nat (AddrInfo × List AddrInfo)
  gaiStrerror : Nat → Bytes
  strerror : Nat → Bytes

namespace LibC

/-- With `AI_NUMERICHOST`, the texts `inet_pton` accepts resolve to an entry of their family. -/
def NumericHost (L : LibC) : Prop :=
  ∀ f t a, inetPton f t = some a →
    ∃ res rest, L.getaddrinfo true t = .ok (res, rest) ∧ res.aiFamily = f

/-- Without hints, the texts `inet_pton` accepts resolve to entries that share one `sockaddr`, which
carries the address and is not a block of `0xff` bytes. -/
def NumericLookup (L : LibC) : Prop :=
  ∀ f t a, inetPton f t = some a →
    ∃ res rest sa, L.getaddrinfo false t = .ok (res, rest) ∧
      (∀ e ∈ res :: rest, e.aiFamily = f ∧ e.aiAddr = some sa) ∧
      sockaddrAddr f sa = a ∧ sa.take sockaddrSize ≠ List.replicate sockaddrSize 0xff

/-- The memory of the `sockaddr` of a numeric address on Linux, port and scope zero. -/
def linuxSockaddr (f : Family) (a : Bytes) : Bytes :=
  match f with
  | .inet => [2, 0, 0, 0] ++ a ++ List.replicate 8 0
  | .inet6 => [10, 0, 0, 0, 0, 0, 0, 0] ++ a ++ List.replicate 4 0
  | .other _ => []

/-- The entries of a numeric address: stream, datagram and raw. -/
def linuxEntries (f : Family) (a : Bytes) : AddrInfo × List AddrInfo :=
  (⟨f, 1, 6, some (linuxSockaddr f a)⟩,
    [⟨f, 2, 17, some (linuxSockaddr f a)⟩, ⟨f, 3, 0, some (linuxSockaddr f a)⟩])

/-- A resolver that knows no names: what `getaddrinfo` does on a numeric text. -/
def numeric : LibC where
  getaddrinfo _ t :=
    match inetPton .inet t with
    | some a => .ok (linuxEntries .inet a)
    | none =>
      match inetPton .inet6 t with
      | some a => .ok (linuxEntries .inet6 a)
      | none => .error 2
  gaiStrerror _ := str "Name or service not known"
  strerror _ := str "Operation not permitted"

lemma numeric_getaddrinfo {f : Family} {t a : Bytes} (h : inetPton f t = some a) (hints : Bool) :
    numeric.getaddrinfo hints t = .ok (linuxEntries f a) := by
  cases f with
  | inet => simp [numeric, h]
  | inet6 =>
    cases h4 : inetPton .inet t with
    | none => simp [numeric, h4, h]
    | some b => exact absurd (inetPton_family_unique h4 h) (by decide)
  | other n => cases h

lemma numeric_numericHost : numeric.NumericHost := by
  intro f t a h
  exact ⟨_, _, numeric_getaddrinfo h true, rfl⟩

lemma sockaddrAddr_linuxSockaddr {f : Family} {a : Bytes} (ha : a.length = f.size) :
    sockaddrAddr f (linuxSockaddr f a) = a := by
  cases f with
  | inet =>
    have h4 : a.length = 4 := ha
    simp [sockaddrAddr, linuxSockaddr, h4]
  | inet6 =>
    have h16 : a.length = 16 := ha
    simp [sockaddrAddr, linuxSockaddr, h16]
  | other n =>
    have h0 : a = [] := List.length_eq_zero_iff.1 ha
    simp [sockaddrAddr, h0]

lemma numeric_numericLookup : numeric.NumericLookup := by
  intro f t a h
  refine ⟨_, _, linuxSockaddr f a, numeric_getaddrinfo h false, ?_,
    sockaddrAddr_linuxSockaddr (inetPton_length h).2, ?_⟩
  · intro e he
    simp only [List.mem_cons, List.not_mem_nil, or_false] at he
    rcases he with rfl | rfl | rfl
    · exact ⟨rfl, rfl⟩
    · exact ⟨rfl, rfl⟩
    · exact ⟨rfl, rfl⟩
  · cases f with
    | inet => simp [linuxSockaddr, sockaddrSize, List.replicate_succ]
    | inet6 => simp [linuxSockaddr, sockaddrSize, List.replicate_succ]
    | other n => cases h

end LibC

end Lib
end Banip
