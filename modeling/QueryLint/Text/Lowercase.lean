import QueryLint.Text.CharClass

/-!
# Lower case

Lower case is taken character by character. Outside ASCII the letters with a
lower-case partner come in groups: a first letter, how many there are, the
distance between two of them, and the partner of the first. A capital sigma has a
form of its own at the end of a word.
-/

namespace QueryLint.Text

structure CaseGroup where
  first : Nat
  count : Nat
  stride : Nat
  target : Nat

/-- Groups of four numerals; the first letter is given by its distance from the
first letter of the group before. -/
def caseGroups : Nat → List Nat → List CaseGroup
  | last, gap :: count :: stride :: target :: rest =>
      ⟨last + gap, count, stride, target⟩ :: caseGroups (last + gap) rest
  | _, _ => []

def upperGroups : List CaseGroup := caseGroups 0 <| numerals
  "5c n 1 68 o 7 1 6w 14 o 2 75 1e 3 2 8j 7 8 2 8q h n 2 97 1a 1 1 73 1 3 2 ai 8 1 1 gj 1 2
   2 ar 4 1 1 gk 1 1 1 aw 2 2 1 gm 2 1 1 b0 3 1 1 d9 1 1 1 gp 1 1 1 gr 1 1 1 b6 2 1 1 gw 1
   1 1 gz 2 1 1 h5 1 1 1 h4 1 1 1 bd 4 1 1 hb 1 1 1 he 2 1 1 hh 1 3 2 bl 6 1 1 hs 1 1 1 bs
   2 1 1 hv 3 1 1 bx 2 1 1 i0 1 1 1 c0 2 2 1 i2 2 2 2 c4 4 1 1 ia 1 1 1 c9 4 1 1 cd 8 1 1
   cm 1 1 1 cm 2 1 1 cp 1 1 1 cp 2 1 1 cs 1 9 2 cs j 9 2 db j 1 1 dv 1 2 2 dv 4 1 1 b9 1 1
   1 cf 1 k 2 e1 14 1 1 bi 2 9 2 f7 o 1 1 8rp 1 1 1 fw 2 1 1 be 1 1 1 8rq 3 1 1 g2 2 1 1 ao
   1 1 1 i1 1 1 1 i4 1 5 2 g7 8a 2 2 oh 6 1 1 on 9 1 1 s3 7 1 1 q4 2 3 1 q5 4 1 1 r0 2 2 1
   r1 3 h 1 q9 i 9 1 qr 18 1 1 rb 9 c 2 rd s 1 1 qg 3 1 1 s8 2 1 1 s2 1 1 1 sb 3 3 1 or 3 g
   1 uo g w 1 ts 28 h 2 v5 16 r 2 wb 1i 1 1 y7 1 7 2 xu f 1c 2 y9 2p 12 1 129 29b 12 1 8w0
   13 1 1 8x3 6 1 1 8x9 k3 28 1 xv4 28 6 1 3y0 1pc 17 1 3bk 19 3 1 3ct 8z 23 2 5xd 4e 1 1
   67 2 1c 2 61t 2w 8 1 64g g 6 1 64w g 8 1 65c g 8 1 65s g 6 1 668 h 4 2 66p f 8 1 674 w 8
   1 680 g 8 1 68g g 8 1 68w g 2 1 69c 2 2 1 67k 2 1 1 69f c 4 1 67m 4 1 1 69v c 2 1 6a8 2
   2 1 67q e 2 1 6ao 2 2 1 67u 2 1 1 6at c 2 1 67s 2 2 1 67w 2 1 1 6b7 8a 1 1 qx 4 1 1 2z 1
   1 1 6d 7 1 1 6ku 1a g 1 6ls z 1 1 6mc mr q 1 79s 1fu 1c 1 8q8 2o 1 1 8rl 2 1 1 h7 1 1 1
   5tp 1 1 1 hp 3 3 2 8rs 6 1 1 gh 1 1 1 hd 1 1 1 gg 1 1 1 gi 2 1 1 8s3 3 1 1 8s6 9 2 1 fz
   2 1e 2 8sh 2z 2 2 8vg 7 1 1 8vn nym n 2 wu9 1s e 2 ww1 4i 7 2 x0j g v 2 x0z 1z 2 2 x2y 4
   1 1 5tl 1 5 2 x33 d 1 1 x3g 2 1 1 h1 3 2 2 x3l 6 a 2 x3r k 1 1 h2 1 1 1 gs 1 1 1 gx 1 1
   1 h8 1 1 1 h6 2 1 1 im 1 1 1 hz 1 1 1 il 1 1 1 xub 1 8 2 x4l g 1 1 x3o 1 1 1 hu 1 1 1
   5u6 1 2 2 x54 9 1 1 x5d 6 2 2 x5j v 1 1 x6e h7w q 1 1ef5 yn 14 1 1fe0 4w 10 1 1fiw 5c b
   1 1fo7 c f 1 1foj g 7 1 1foz 8 2 1 1fp7 1d8 1f 1 1h34 2e8 w 1 1jgg gww w 1 20dc o8w y 1
   2oma"

/-- The partner of code point `n` in a group that holds it. -/
def CaseGroup.partner? (g : CaseGroup) (n : Nat) : Option Nat :=
  if g.first ≤ n ∧ n < g.first + g.count * g.stride ∧ (n - g.first) % g.stride = 0 then
    some (g.target + (n - g.first))
  else none

/-- A capital dotted i becomes two characters; every other letter becomes one. -/
def lowerChar (c : Char) : List Char :=
  if c.toNat < 128 then [if 'A' ≤ c ∧ c ≤ 'Z' then Char.ofNat (c.toNat + 32) else c]
  else if c = 'İ' then ['i', '̇']
  else match upperGroups.findSome? (·.partner? c.toNat) with
    | some n => [Char.ofNat n]
    | none => [c]

/-! ### Sigma at the end of a word -/

/-- Runs of the characters with a case that count as parts of a word. -/
def casedStarts : List Nat := runStarts 0 <| numerals
  "1t q 6 q 1b 1 a 1 4 1 5 n 1 v 1 5f 1 4 4 5s 1 r 5c 4 2 2 3 3 1 1 6 1 1 3 1 1 1 k 1 2b 1
   3v 8 4m 1 12 9 15 26v 12 1 1 5 1 2 17 2 3 io 2e 2 6 1oi 9 7 17 2 3 1s 18 1r d 1 y 2t 7q
   2 6 2 12 2 6 2 8 1 1 1 1 1 1 1 v 2 1h 1 7 1 1 3 3 1 7 3 4 2 6 4 d 5 3 1 7 79 1 4 1 2 a
   1 1 3 5 6 1 1 1 1 1 1 4 1 6 4 1 2 4 5 5 4 1 h w 3 2 mp 1g 1ee 3g 2 2v 6 4 3 2 c 12 1 1
   5 1 nwy 1a i s 3q 26 1 n 3 4 1 1n 5 2 1 1 1 5 r 2 3 1 mt 17 5 9 7 28 fnk 7 c 5 sp q 6 q
   x1 28 2o 10 4 10 38 b 1 f 1 7 1 2 1 b 1 f 1 7 1 2 1c3 1f d 1f 2b1 1s gv4 1s k1s 2d 1 1z
   1 2 2 1 2 2 2 4 1 c 1 1 1 7 1 1t 1 4 2 8 1 7 1 s 1 4 1 5 1 1 3 7 1 9g 2 p 1 p 1 v 1 p 1
   v 1 p 1 v 1 p 1 v 1 p 1 8 1f8 a 1 k 1y9 1w 1kc q 6 q 6 q"

/-- Runs of the characters that are passed over when the ends of a word are sought. -/
def caseIgnoredStarts : List Nat := runStarts 0 <| numerals
  "13 1 6 1 b 1 z 1 1 1 1z 1 4 1 1 1 4 1 2 2 dz 5c 4 2 4 1 9 2 1 1 6z 7 5r 1 5 1 1d 19 1 1
   1 2 1 2 1 1 18 1 b 6 a b 1 1 z 1 a l g 1 2t 8 1 a 1 4 x 1 1 1 u r 2j b 1m b 4 1 2 1 o o
   17 3 18 1 7 2 6 8 15 1m 1j 1 1 1 4 8 4 1 3 7 a 2 d 1 f 1 1m 1 4 4 8 1 k 2 q 1 2 2 1l 1
   4 2 4 2 2 3 3 1 u 2 3 1 b 2 1l 1 4 5 1 2 4 1 k 2 m 6 1 1 1m 1 2 1 1 4 8 1 7 2 b 2 u 1
   1p 1 c 1 1e 1 3 1 1j 1 1 3 5 3 1 4 7 2 b 2 t 1 1m 1 2 1 6 1 5 2 k 2 s 2 1l 2 4 4 8 1 k
   2 t 1 20 1 7 3 1 1 2i 1 2 7 b 9 2q 1 2 9 9 1 1 6 22 2 r 1 1 1 1 1 1j e 1 5 1 2 5 b 1 10
   9 1 2u 4 1 6 1 2 2 2 p 2 4 3 g 4 d 1 2 2 6 1 f 1 2m 1 gw 3 qa 3 t 2 u 2 u 2 1s 2 1 7 8
   1 2 b 3 1 5 1 19 5 1f 1 1t 2 y 1 3a 3 4 2 9 1 6 3 63 2 2 1 1m 1 1 7 1 1 1 1 2 8 6 a 2 1
   13 1 8 v 1d 4 1c 1 1 5 1 1 5 1 14 9 c 2 w 4 2 2 1 3 1k 1 1 2 3 1 1 3 1m 8 2 2 1s 6 2a 3
   1 d 1 7 4 1 6 1 3 2 1e 1r d 1 y 2t cd 1 1 3 b 3 d 3 d 3 d 2 c 5 8 2 a 1 2 1 2 5 1d 5 1
   a 1 1 d 1 g d 1f x 2a3 2 35 3 3h 1 f 1 2o w 1b 1 d1 1 10 4 3 5 5 1 2l 6 2l 3 lxy 1 yq 6
   7i 1 2q 4 1 a 1 1 s 4 28 2 e y 26 1 n 3 2v 3 3 2 8 1 3 1 4 1 p 2 5 1 47 2 q i d 1 12 8
   p b 1a 3 1c 1 2 4 2 2 h 1 l 2 1u 6 2 2 2 2 c 1 8 1 z 1 b 1 1f 1 1 3 2 2 5 2 1 1 r 1 e 2
   5 2 1 1 2s 5 9 3 3d 1 2 1 4 1 fn4 1 43 h fx g 3 1 c g y 1 2 1 4p 1 7 1 6 1 b 1 z 1 1 1
   1b 1 19 2 1v 1 l 3 e9 1 6a 1 45 5 sl 6 1 16 1 9 g6 3 1 2 5 4 14 3 4 1 4l 2 fx 4 ar 2 49
   b 1d 4 3f 1 1i f 15 1 2 2 a 3 1d 4 2 2 2 1 4 1 a 1 1e 3 10 5 1 8 1q 1 c 2 1g 9 a 4 2 1
   2n 3 2 1 1 2 6 1 4g 1 3 8 l 2 1l 2 3 1 11 7 3 5 5f 8 2 3 1 1 n 1 2c 6 1 1 4 2 1 2 6m 4
   6 2 1 2 r 2 2d 8 2 1 1 2 2y 1 1 1 2 6 1 1 2t 3 2 4 1 5 77 9 1 2 74 2 1 1 4 1 40 4 2 2 4
   1 w a 14 6 2 4 8 1 9 6 2 3 1a d 1 2 ba 7 1 6 1 1 2a m 2 7 1 2 1 2 3e 6 3 1 1 2 1 7 1 1
   20 2 3 1 1 1 9n 2 46z 9 at3 5 1n 7 9 4 sr 1 1r h 1s 2 1 2 cnf 4 1 7 1 2 2hq 2 1 4 3mk
   1a 2 n f4 3 9 g 2 7 u 4 44 3 1iz 1j 4 1e 8 1 e 1 m 5 1 f 11s 7 1 h 2 7 1 2 1 5 79 e a8
   1 1p 4 15s 7 31 8 23z 5 gx6p 1 u 2o 3k 6o"

/-- Whether the first character that is not passed over has a case. -/
def startsCased (cs : List Char) : Bool :=
  match cs.dropWhile (inRuns caseIgnoredStarts) with
  | c :: _ => inRuns casedStarts c
  | [] => false

/-- The small sigma between the characters before it, given from the last to the first,
and those after it. -/
def smallSigma (before after : List Char) : Char :=
  if startsCased before && !startsCased after then 'ς' else 'σ'

def lowerFrom (before : List Char) : List Char → List Char
  | [] => []
  | c :: cs =>
      (if c = 'Σ' then [smallSigma before cs] else lowerChar c) ++ lowerFrom (c :: before) cs

def lower (s : String) : String := String.ofList (lowerFrom [] s.toList)

end QueryLint.Text
