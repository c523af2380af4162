import DocAudit.Text.Basic

/-!
# UTF-8

Bytes as text. `takeChar` reads one character or tells how many bytes form a beginning that no
continuation can save; the strict reader refuses such bytes and the lenient one puts one replacement
character in their place.

## Termination

Each step of a reader takes at least one byte, so the rest is shorter.
-/

namespace DocAudit.Text.Utf8

/-- A continuation byte in the given range. -/
def isCont (low high : Nat) (b : UInt8) : Bool := low ≤ b.toNat && b.toNat ≤ high

/-- What the first byte announces: the number of bytes that follow, the range of the first of them
and the bits of the first byte. -/
def announce (b : UInt8) : Option (Nat × Nat × Nat × Nat) :=
  let n := b.toNat
  if n < 0x80 then some (0, 0, 0, n)
  else if n < 0xC2 then none
  else if n < 0xE0 then some (1, 0x80, 0xBF, n - 0xC0)
  else if n == 0xE0 then some (2, 0xA0, 0xBF, 0)
  else if n == 0xED then some (2, 0x80, 0x9F, 0xD)
  else if n < 0xF0 then some (2, 0x80, 0xBF, n - 0xE0)
  else if n == 0xF0 then some (3, 0x90, 0xBF, 0)
  else if n < 0xF4 then some (3, 0x80, 0xBF, n - 0xF0)
  else if n == 0xF4 then some (3, 0x80, 0x8F, 4)
  else none

/-- `k` continuation bytes after the bits `acc`. On the left: how many were good before the fault. -/
def takeConts : (k : Nat) → (low high : Nat) → (acc good : Nat) → List UInt8 →
    Except Nat (Nat × List UInt8)
  | 0, _, _, acc, _, rest => .ok (acc, rest)
  | _ + 1, _, _, _, good, [] => .error good
  | k + 1, low, high, acc, good, b :: rest =>
    if isCont low high b then takeConts k 0x80 0xBF (acc * 64 + (b.toNat - 0x80)) (good + 1) rest
    else .error good

/-- One character and the bytes after it, or the number of bytes that are lost. -/
def takeChar (b : UInt8) (rest : List UInt8) : Except Nat (Char × List UInt8) :=
  match announce b with
  | none => .error 1
  | some (k, low, high, bits) =>
    match takeConts k low high bits 0 rest with
    | .ok (n, after) => .ok (Char.ofNat n, after)
    | .error good => .error (good + 1)

theorem length_takeConts {k low high acc good n : Nat} {rest after : List UInt8}
    (h : takeConts k low high acc good rest = .ok (n, after)) : after.length ≤ rest.length := by
  fun_induction takeConts k low high acc good rest with
  | case1 => simp_all
  | case2 => simp at h
  | case3 _ _ _ _ _ _ _ _ ih => have := ih h; simp; omega
  | case4 => simp at h

/-- The bytes after a character are no more than those after its first byte. -/
theorem length_takeChar {b : UInt8} {rest after : List UInt8} {c : Char}
    (h : takeChar b rest = .ok (c, after)) : after.length ≤ rest.length := by
  unfold takeChar at h
  split at h
  · simp at h
  · split at h
    · next heq => simp at h; exact h.2 ▸ length_takeConts heq
    · simp at h

/-- The text of the bytes, when all of them form characters. -/
def decode? (bytes : List UInt8) : Option Text :=
  match bytes with
  | [] => some []
  | b :: rest =>
    match _h : takeChar b rest with
    | .error _ => none
    | .ok (c, after) => (decode? after).map (c :: ·)
termination_by bytes.length
decreasing_by
  have := length_takeChar (by assumption)
  rw [List.length_cons]
  omega

/-- The text of the bytes; what forms no character is shown by the replacement character. -/
def decodeLossy (bytes : List UInt8) : Text :=
  match bytes with
  | [] => []
  | b :: rest =>
    match _h : takeChar b rest with
    | .error lost => '\uFFFD' :: decodeLossy (rest.drop (lost - 1))
    | .ok (c, after) => c :: decodeLossy after
termination_by bytes.length
decreasing_by
  · rw [List.length_cons, List.length_drop]
    omega
  · have := length_takeChar (by assumption)
    rw [List.length_cons]
    omega

/-- The bytes of one character. -/
def encodeChar (c : Char) : List UInt8 :=
  let n := c.toNat
  if n < 0x80 then [n.toUInt8]
  else if n < 0x800 then [(0xC0 + n / 64).toUInt8, (0x80 + n % 64).toUInt8]
  else if n < 0x10000 then
    [(0xE0 + n / 4096).toUInt8, (0x80 + n / 64 % 64).toUInt8, (0x80 + n % 64).toUInt8]
  else
    [(0xF0 + n / 262144).toUInt8, (0x80 + n / 4096 % 64).toUInt8, (0x80 + n / 64 % 64).toUInt8,
      (0x80 + n % 64).toUInt8]

/-- The bytes of a text. -/
def encode (s : Text) : List UInt8 := s.flatMap encodeChar

end DocAudit.Text.Utf8
