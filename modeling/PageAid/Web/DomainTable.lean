/-!
Tables of the characters in names of hosts, packed: which ones may stand, and what stands for the
others.
-/

namespace PageAid.Web

/-- Runs of characters that may stand in a name: the distance from the end of the run before, and
the number of further characters. -/
def validText : String := "
  4h 6 2 0 2 1 2 0 2 1 5 1 4 0 4 0 o 0 8 w 2 0 2 0 2 0 2 0 2 0 2 0 2 0 2 0 2 0 2 0 2 0 2 0 2 0
  2 0 2 0 2 0 2 0 2 0 2 0 2 0 2 0 2 0 2 0 2 0 2 0 4 0 2 1 2 0 2 0 2 0 4 0 2 0 2 0 2 0 3 0 2 0 2
  0 2 0 2 0 2 0 2 0 2 0 2 0 2 0 2 0 2 0 2 0 2 0 2 0 2 0 2 0 2 0 2 0 2 0 2 0 2 0 2 0 3 0 2 0 2 0
  2 0 3 0 2 0 3 0 4 1 5 0 3 0 4 2 3 0 3 0 2 0 2 0 3 0 2 1 2 0 3 0 4 0 2 0 3 2 2 6 b 0 2 0 2 0 2
  0 2 0 2 0 2 0 2 1 2 0 2 0 2 0 2 0 2 0 2 0 2 0 2 0 2 1 5 0 4 0 2 0 2 0 2 0 2 0 2 0 2 0 2 0 2 0
  2 0 2 0 2 0 2 0 2 0 2 0 2 0 2 0 2 0 2 0 2 0 2 0 2 0 2 0 2 0 2 0 2 0 2 0 2 0 2 0 2 6 3 0 3 1 2
  0 5 0 2 0 2 0 2 0 2 2o a u 7 1 6 2i 3 0 4 8 2 v 2 0 2 0 2 0 2 0 4 2 j 0 s y 9 0 2 0 2 0 2 0 2
  0 2 0 2 0 2 0 2 0 2 0 2 0 2 0 2 0 4 0 3 0 2 0 3 1 1g 1b 2 0 2 0 2 0 2 0 2 0 2 0 2 0 2 0 2 0 2
  0 2 0 2 0 2 0 2 0 2 0 2 0 2 8 2 0 2 0 2 0 2 0 2 0 2 0 2 0 2 0 2 0 2 0 2 0 2 0 2 0 2 0 2 0 2 0
  2 0 2 0 2 0 2 0 2 0 2 0 2 0 2 0 2 0 2 0 2 0 3 0 2 0 2 0 2 0 2 0 2 0 2 1 2 0 2 0 2 0 2 0 2 0 2
  0 2 0 2 0 2 0 2 0 2 0 2 0 2 0 2 0 2 0 2 0 2 0 2 0 2 0 2 0 2 0 2 0 2 0 2 0 2 0 2 0 2 0 2 0 2 0
  2 0 2 0 2 0 2 0 2 0 2 0 2 0 2 0 2 0 2 0 2 0 2 0 2 0 2 0 2 0 2 0 2 0 2 0 2 0 15 1a 2 2 3 2 2
  1j 8 q 5 5 i l 2 2f 5 2r 2 1b 3 1m 3 2s f 1m 3 1c 3 e 2 r 3 0 2 a 6 v 8 22 2 38 9 z 2 7 3 1 3
  l 2 6 2 0 4 3 3 8 3 1 3 3 9 0 9 3 3 o 3 2 2 5 5 1 3 l 2 6 2 0 3 0 3 1 3 0 2 4 5 1 3 2 4 0 b 0
  a g b 2 2 8 2 2 2 l 2 6 2 1 2 4 3 9 2 2 2 2 3 0 g 3 3 b 8 6 2 2 2 7 3 1 3 l 2 6 2 1 2 4 3 8 3
  1 3 2 6 4 8 4 3 h b 1 2 5 4 2 2 3 4 1 2 0 2 1 4 1 4 2 4 b 5 4 4 2 2 3 3 0 7 0 f k 6 c 2 2 2 m
  2 f 3 8 2 2 2 3 8 1 2 2 2 1 3 3 3 9 8 l 2 2 2 m 2 9 2 4 3 8 2 2 2 3 8 1 6 2 2 3 3 9 2 2 d c 2
  2 2 1e 2 2 2 5 5 f 3 p 2 2 2 h 4 n 2 8 2 0 3 6 4 0 5 5 2 0 2 7 7 9 3 2 d 1d 2 6 5 s 12 1 2 0
  2 4 2 n 2 0 2 b 2 9 3 4 2 0 2 6 2 9 5 1 x b 2 1h 2 3 2 3 2 3 2 3 2 3 2 b 2 2 5 1 2 0 6 6 2 g
  2 3 2 3 2 3 2 3 2 3 2 b 2 2 2 e 2 c 12 4f 1d 17 2 2p 3 6f 2 3 3 6 2 0 2 3 3 14 2 3 3 w 2 3 3
  6 2 0 2 3 3 e 2 1k 2 3 3 1u 3 v 4 p 7 2d b hr 2 r 4 2g 8 l a n a j d c 2 2 2 1 d 1f 3 13 3 9
  7 9 7 a 6 9 7 2g 8 16 6 1x b u 2 b 5 b 5 0 4 15 3 4 c 17 5 p 7 a 4 1p 3 1s 2 s 3 a 7 9 7 d 3
  1a 2 b l 24 2 4l 9 1n 4 e 4 1e b 0 1i 7 9 16 6 17 4 0 c 0 j 0 t c 2 x 12 1r 2 0 2 0 2 0 2 0 2
  0 2 0 2 0 2 0 2 0 2 0 2 0 2 0 2 0 2 0 2 0 2 0 2 0 2 0 2 0 2 0 2 0 2 0 2 0 2 0 2 0 2 0 2 0 2 0
  2 0 2 0 2 0 2 0 2 0 2 0 2 0 2 0 2 0 2 0 2 0 2 0 2 0 2 0 2 0 2 0 2 0 2 0 2 0 2 0 2 0 2 0 2 0 2
  0 2 0 2 0 2 0 2 0 2 0 2 0 2 0 2 0 2 0 2 0 2 0 2 0 2 0 2 0 2 0 2 0 2 0 2 0 2 0 2 0 2 0 2 0 2 4
  3 1 2 0 2 0 2 0 2 0 2 0 2 0 2 0 2 0 2 0 2 0 2 0 2 0 2 0 2 0 2 0 2 0 2 0 2 0 2 0 2 0 2 0 2 0 2
  0 2 0 2 0 2 0 2 0 2 0 2 0 2 0 2 0 2 0 2 0 2 0 2 0 2 0 2 0 2 0 2 0 2 0 2 0 2 0 2 0 2 0 2 0 2 0
  2 0 2 0 2 8 9 5 b 7 9 7 9 5 b 7 9 7 9 0 2 0 2 0 2 0 2 0 2 0 2 0 1g 1 5 0 g 0 a 2 4 1 9 2 2 3
  f 0 m 1 3 0 2 4 2 b 4 0 9 2 3 0 3 3 2 0 2 7 4 c 2 6 1d 0 h 7 2 o f w k 0 4 0 c 0 3 1 6 1 4 0
  2 0 2 0 2 0 5 0 c 0 7 3 6 5 1d 2 2 4 2 1 5 4b 3 0 3 6v 3 72 n a 4h 10g 2 2u 4 2s 2 46 3 3t 1d
  1b 2 0 4 1 2 0 2 0 2 0 5 0 2 1 2 5 6 0 2 0 2 0 2 0 2 0 2 0 2 0 2 0 2 0 2 0 2 0 2 0 2 0 2 0 2
  0 2 0 2 0 2 0 2 0 2 0 2 0 2 0 2 0 2 0 2 0 2 0 2 0 2 0 2 0 2 0 2 0 2 0 2 0 2 0 2 0 2 0 2 0 2 0
  2 0 2 0 2 0 2 0 2 0 2 0 2 0 2 0 2 0 2 0 2 0 2 7 2 0 2 3 2 0 6 18 2 0 6 0 3 1j 9 0 f n a 6 2 6
  2 6 2 6 2 6 2 6 2 6 2 6 2 3h z p 2 3 2 2a 7j 0 2 1e 2 0 4 4 2 2d 3 1 3 1 2 2m 7 16 2p 1 f 1x
  b f 21 7 1c 0 ap m8c 4 1i a 9n m 0 2 0 2 0 2 0 2 0 2 0 2 0 2 0 2 0 2 0 2 0 2 0 2 0 2 0 2 0 2
  0 2 0 2 0 2 0 2 0 2 0 2 0 2 i 2 0 2 0 2 0 2 0 2 0 2 0 2 0 2 0 2 0 2 0 2 0 2 0 2 0 2 0 3 2h 9
  x 2 0 2 0 2 0 2 0 2 0 2 0 2 2 2 0 2 0 2 0 2 0 2 0 2 0 2 0 2 0 2 0 2 0 2 0 2 0 2 0 2 0 2 0 2 0
  2 0 2 0 2 0 2 0 2 0 2 0 2 0 2 0 2 0 2 0 2 0 2 0 2 0 2 0 2 0 2 7 2 0 2 0 3 0 2 0 2 0 2 0 2 3 2
  0 2 1 2 0 2 2 2 0 2 0 2 0 2 0 2 0 2 0 2 0 2 0 2 0 2 0 6 0 6 0 2 0 2 0 2 0 2 0 2 0 2 0 2 0 5 0
  2 0 3 0 2 0 2 0 2 0 2 0 2 0 2 0 2 0 r 1 3 1e 4 9 7 1j 9 1x 9 b 7 37 c t 4 25 2 a 5 w 2 1i a d
  3 9 3 2u p r b 5 3 5 3 5 a 6 2 6 2 17 5 8 2 2 2c 19 3 9 7 8mb d m 5 1c 6qb 1 2 0 2 1 b 0 2 0
  2 1 3 2 6t 0 44 w a4 h 1t 1 1j 7 1a 2 x f m 1 19 0 b1 b 2 p 2 i 2 1 2 e 3 d z 3e 6 2 5 18 4
  2f 2 c 4 0 1c 19 3n s 4 1c g r 5 z a t 6 16 6 t 2 10 5 d 2b 39 3 9 1b z 5 13 9 1f c 0 14 a 2
  e 2 6 2 1 4 1f d 8m a l b 7 p 0 3k 5 3 0 2 17 2 1 4 0 3 m 2 1z 9 8 1d i 2 1 6 w 4 q 6 q 13 1j
  5 j 3 1d 2 1 6 7 2 2 2 s 3 2 5 9 8 8 8 1r x 12 5 b a 1h 4 s 3 q 6 p 8 3 d 6 29 20 3c 1e 8 19
  9 9 7 f q s 9 1 5t u 2 15 2 2 3 1 h 5 2 0 7 8 y 19 9 15 n p 13 r l m a 25 5 z a 1p 2 4 e o 8
  9 7 1g 2 h 9 12 a 2n 2 j c h 2 1a 1r 6 2 0 2 3 2 e 2 a 7 1m 6 9 7 3 2 7 3 1 3 l 2 6 2 1 2 4 2
  9 3 1 3 2 3 0 7 0 6 6 3 6 4 4 c 9 2 0 3 0 2 11 2 9 2 0 3 0 2 3 2 9 2 1 9 1 u 2j 2 4 v 1z 9 9
  4n 1h 3 11 z 1w c 9 7 c k 1l 7 9 7 j t q 3 e 5 m 56 1n 3p 1e d 7 3 0 3 7 2 1 2 t 2 1 3 b a 9
  1z 7 3 19 3 a s 1z 9 2a e 20 8 9 2f 7 2h x f 9 7 8 2 18 2 d b s 4 v 3 l 2 d 22 6 2 1 2 17 4 0
  2 1 2 8 9 9 7 5 2 1 2 10 2 1 2 5 8 9 7 17 5 9 6v o 8 g 2 14 4 s 2e 0 g 1d e pm 2v 32 2 4 c 5f
  219 2q e tr h l b 32y 6 g6 5a2 1l 1c7 fs 8 u 2 9 5 28 2 9 7 t 3 5 b 1x b 9 2 6 2 k 6 i c1 1l
  6f 1m x o 19 22 5 1k 8 g 1t 4 c 6 a 5p1 16 v 2q 36 6pq 3 2 6 2 1 2 82 g 0 u 2 3 0 f 3 9 az
  1s5 2y 6 c 4 8 8 9 3 3 31d 5x 11 2 4 c3 7 m g g g 19 3 m a 37 1p 6t b 12 3 1g 8 d 9 1r 7 15 m
  1x 3f j d j d 2e a o w8 i3 g 4 2 e up u 7 5 5y 6 2 g 3 6 2 1 2 4 2t 0 35 18 4 d 3 9 5 1 8x u
  i 1l 6 0 cx 15 5z 16 5 0 5d u 2 l 9 1 69 6 2 3 2 1 2 e 2 5g 3 f 24 15 5 9 5 1 lu 1v 25 1o c3
  1 7j 17 5 2r d e 3 e 2 e 2 10 m 4 w 0 x p 4 y 2 s 1l p 2p 5 4b rc 4 g 4 c 4 61 7 b 5 0 g b 5
  1j 9 9 7 13 9 t 3 b 5 1 f 8 14 9j 9 d 3 c 4 a 4 1k 2 0 5 f 3 b 5 9 8 42 2 2j b 0 sm wyn x 3dp
  3 4gd 3 5rk g h9 3hf 3t6 6 6jt upz 8qn"

def ignoredText : String := "
  4t 0 iq 0 2s0 1 190 1 2e 4 1ks 0 2d 4 6 5 3cl 0 14f0 f 6o 0 4h 0 11c0 3 440 7 h47a 6n"

/-- Runs of characters that another one stands for: the distance from the start of the run before,
the number of further characters, the step between two of them, and the shift to the other one: an
even number is twice a shift up, an odd one is twice a shift down less one. -/
def shiftText : String := "
  4g 0 1 73 a 0 1 41 8 1 1 73 3 0 1 172 4 0 1 7j 1 0 1 45 6 m 1 1s o 6 1 1s 14 n 2 2 1g 1 2 2 5
  2 2 2 8 3 2 2 9 m 2 2 1a 0 1 6p 1 2 2 2 6 0 1 ev 2 0 1 bo 1 1 2 2 4 0 1 bg 1 0 1 2 2 1 1 be 2
  0 1 2 3 0 1 4e 1 0 1 b8 1 0 1 ba 1 0 1 2 2 0 1 be 1 0 1 bi 2 0 1 bq 1 0 1 bm 1 0 1 2 4 0 1 bq
  1 0 1 bu 2 0 1 bw 1 2 2 2 6 0 1 c4 1 0 1 2 2 0 1 c4 3 0 1 2 2 0 1 c4 1 0 1 2 2 1 1 c2 2 1 2 2
  4 0 1 c6 1 0 1 2 4 0 1 2 h 7 2 2 h 8 2 2 m 0 1 2 2 0 1 5d 1 0 1 33 1 j 2 2 14 0 1 77 2 8 2 2
  o 0 1 gnq 1 0 1 2 2 0 1 91 1 0 1 gnk 3 0 1 2 2 0 1 at 1 0 1 3u 1 0 1 3y 1 4 2 2 2y 1 2 wf 1 0
  1 45 2 0 1 w1 1 0 1 39 1 0 1 37 1 0 1 2x 1 0 1 vz 1 0 1 vx 14 0 1 6x 1 0 1 yx 1 0 1 yl 1 0 1
  yd 1 0 1 4d 2k 1 1 3j 3 0 1 2n 2 0 1 6g 17 1 2 2 4 0 1 ad 2 0 1 2 8 0 1 1ad 1 0 1 6g 7 0 1 24
  1 0 1 13z 1 2 1 22 4 0 1 3k 2 1 1 3i 3 g 1 1s i 8 1 1s 18 0 1 g 1 0 1 1n 1 0 1 1d 1 0 1 p 1 0
  1 b 1 0 1 h 1 0 1 t 1 0 1 17 2 b 2 2 o 0 1 2z 1 0 1 2n 1 0 1 2l 2 0 1 3b 1 0 1 3j 2 0 1 2 2 0
  1 2z 1 0 1 2 3 2 1 77 3 f 1 4g g v 1 1s 28 g 2 2 16 q 2 2 1i 0 1 u 1 6 2 2 f 1b 2 2 2p 11 1
  2o 1y3 0 1 1 b8 11 1 b7k 13 0 1 b7k 6 0 1 b7k 1b 0 1 1r l8 5 1 f 1oo 0 1 9ln 1 0 1 9ll 1 0 1
  9l3 1 1 1 9kz 2 0 1 9l1 1 0 1 9kn 1 0 1 9jb 1 0 1 1ifa 1 0 1 2 7 16 1 4n3 19 2 1 4n3 33 0 1
  bdh 1 0 1 b65 1 1 2 bdj 3 4 2 bdj 1 0 1 asp 2 3 2 bdj 8 0 1 bdl 1 0 1 apf 1 0 1 bdn 1 0 1 bdl
  1 1 1 bdj 2 0 1 bdh 1 0 1 ber 1 1 1 anb 2 0 1 3r 1 0 1 bex 1 1 1 bev 2 0 1 an5 1 1 1 an3 2 0
  1 bez 2 0 1 bev 1 1 2 bet 1 0 1 b2j 2 0 1 anx 1 1 1 3f 2 0 1 bez 1 1 1 bet 2 0 1 3b 1 0 1 amt
  1 0 1 bex 1 0 1 31 1 2 1 a51 3 1 1 a43 2 0 1 bg1 1 0 1 bfl 1 1 1 bfh 2 1 1 a5j 2 0 1 a4t 1 1
  1 a4l f 0 1 9yt z 0 1 as1 1 0 1 bjl 1 0 1 arz 1 0 1 bbv 1 0 1 arp 1 0 1 bjn 1 0 1 arn 1 0 1
  arl 1 0 1 arf 1 2 1 arb 3 0 1 2f 1 0 1 aol 1 0 1 arb 1 0 1 21 1 0 1 aon 1 0 1 ar9 1 0 1 ard 1
  3 1 arb 4 0 1 ar7 1 1 1 aqp 2 0 1 b2r 1 1 1 aqh 2 0 1 8n 1 1 1 aqj 2 0 1 bk1 1 2 1 aqf 3 0 1
  aa5 1t 22 2 2 4b 0 1 37 3 0 1 br1 2 1b 2 2 2w 7 1 f g 5 1 f g 7 1 f g 7 1 f g 5 1 f h 3 2 f f
  7 1 f 9 0 1 ayx 2 0 1 ayz 2 0 1 az1 2 0 1 az3 2 0 1 axl 2 0 1 axn 2 0 1 axp 1n 1 1 f 2 0 1 43
  1 0 1 b31 3 0 1 b2h a 1 2 4r 1 0 1 b3r 2 0 1 b3t 8 0 1 b5x 5 1 1 f 2 0 1 5j 1 0 1 b4n 8 0 1
  b51 5 1 1 f 2 0 1 67 1 0 1 b3v 1 0 1 d 3 0 1 cgt 9 0 1 73 1 1 2 b4p 1 0 1 6z n 0 1 1 u 0 1
  cnx 1c 0 1 cql h 0 1 cqn 1 0 1 cnj 3 5 1 cqn 6 0 1 crh 1 0 1 mm 1 0 1 cql 1 1 1 crt 2 0 1 co1
  1 9 1 crj a 0 1 csd 1 0 1 lq 1 0 1 crh 1 1 1 csp 3 0 1 cpp 1 0 1 cpj 1 0 1 cp1 1 0 1 col 1 0
  1 bxx 1 0 1 cpl 1 3 1 cph 4 0 1 cpf 1 1 1 cpb 2v 0 1 cvx 5 0 1 c47 3 1 1 cw5 5 0 1 clr 6 0 1
  cwd 4 2 1 cwh b 0 1 cwj 2 0 1 bll 2 0 1 cwr 2 0 1 cxp 1 0 1 cqz 1 1 1 cyb 5 0 1 cyd 1 0 1 1k
  1 0 1 cy3 1 0 1 cy1 1 3 1 atl 4 0 1 cyn 3 0 1 bnb 3 0 1 bnh 1 0 1 bm 7 0 1 czn 1 1 1 czh o 0
  1 d0t 4 0 1 d0b 5 0 1 d0h 3 0 1 d1b 1 1 1 d1v 2 0 1 d1f 1 0 1 d1p 4 0 1 d17 5 0 1 d1d 3 0 1
  d27 1 1 1 d2r 2 0 1 d2b 4 0 1 2 bq 1 1 532 8n 8 1 eal 2e p 1 ecp q p 1 ee5 q 0 1 eib 1ee 1b 1
  2o 2o 0 1 2 2 0 1 gkt 1 0 1 5vv 1 0 1 gjx 3 2 2 2 6 0 1 gmv 1 0 1 gl5 1 0 1 gn1 1 0 1 gmz 2 0
  1 2 3 0 1 2 7 0 1 her 1 0 1 he5 1 1 1 got 2 1d 2 2 2z 1 2 2 7 0 1 2 3h 0 1 r 8g 0 1 o64 2c 0
  1 18ig d 0 1 c8w 1 0 1 cb2 1 0 1 cbs 1 0 1 cc8 1 0 1 cdm 1 0 1 cg0 1 0 1 cgc 1 0 1 che 1 0 1
  cis 1 0 1 dik 1 0 1 dkm 1 0 1 dkw 1 0 1 dm4 1 0 1 dn6 1 0 1 doa 1 0 1 dr6 1 0 1 dsa 1 0 1 dsu
  1 0 1 e1e 1 0 1 e6k 1 0 1 e82 1 0 1 e8a 1 0 1 e9w 1 0 1 eac 1 0 1 ebs 1 0 1 ecg 1 0 1 eds 1 0
  1 egm 1 0 1 ehk 1 0 1 ej0 1 0 1 foy 1 0 1 fsw 1 0 1 gie 1 0 1 gjm 1 0 1 gk0 1 0 1 gkk 1 0 1
  gli 1 0 1 gpo 1 0 1 hg4 1 0 1 hiq 1 0 1 hpc 1 0 1 hqk 1 0 1 hrk 1 0 1 hsq 1 0 1 hvo 1 0 1 hvs
  1 0 1 ifu 1 0 1 igc 1 0 1 igy 1 0 1 ihm 1 0 1 io0 1 0 1 ioe 1 0 1 iom 1 0 1 iv2 1 0 1 ivk 1 0
  1 iw8 1 0 1 iwm 1 0 1 izy 1 0 1 j0u 1 0 1 j1s 1 0 1 j66 1 0 1 k2e 1 0 1 k4w 1 0 1 k60 1 0 1
  lb2 1 0 1 lba 1 0 1 lfu 1 0 1 lgo 1 0 1 lhc 1 0 1 lig 1 0 1 lkk 1 0 1 lks 1 0 1 lzk 1 0 1 m0u
  1 0 1 m2k 1 0 1 nmy 1 0 1 nqk 1 0 1 nrs 1 0 1 nuy 1 0 1 nw8 1 0 1 nwo 1 0 1 nx0 1 0 1 nzu 1 0
  1 o02 1 0 1 o1s 1 0 1 ppo 1 0 1 qeg 1 0 1 qf2 1 0 1 qfa 1 0 1 qfg 1 0 1 qfu 1 0 1 qgs 1 0 1
  qgu 1 0 1 qla 1 0 1 qx8 1 0 1 qxg 1 0 1 rg8 1 0 1 rgq 1 0 1 rjg 1 0 1 rjs 1 0 1 rk8 1 0 1 rkm
  1 0 1 rpm 1 0 1 rpy 1 0 1 s2k 1 0 1 s2w 1 0 1 s5k 1 0 1 s6g 1 0 1 s90 1 0 1 sm4 1 0 1 smg 1 0
  1 snc 1 0 1 t5g 1 0 1 tce 1 0 1 tco 1 0 1 tmq 1 0 1 tri 1 0 1 tu0 1 0 1 uey 1 0 1 uma 1 0 1
  vi4 1 0 1 vjk 1 0 1 vmo 1 0 1 vpg 1 0 1 vt6 1 0 1 vtq 1 0 1 vu0 1 0 1 vvs 1 0 1 vzy 1 0 1 w0g
  1 0 1 wjm 1 0 1 wjy 1 0 1 wke 1 0 1 wku 1 0 1 wlo 1 0 1 wmg 1 0 1 wmm 1 0 1 wqy 1 0 1 wr4 1 0
  1 wre 1 0 1 y9u 1 0 1 ybg 1 0 1 z1g 1 0 1 z22 1 0 1 z3a 1 0 1 ziy 1 0 1 zjm 1 0 1 zni 1 0 1
  zq0 1 0 1 10lg 1 0 1 10m8 1 0 1 10n0 1 0 1 10ow 1 0 1 10qw 1 0 1 111w 1 0 1 112i 1 0 1 1166 1
  0 1 11jw 1 0 1 11lk 1 0 1 11x4 1 0 1 11y8 1 0 1 11yg 1 0 1 12am 1 0 1 12ks 1 0 1 12ro 1 0 1
  12ry 1 0 1 12s6 1 0 1 1480 1 0 1 148g 1 0 1 14h2 1 0 1 14pk 1 0 1 14po 1 0 1 14s8 1 0 1 14y0
  1 0 1 14yo 1 0 1 14yu 1 0 1 14z6 1 0 1 154k 1 0 1 156e 1 0 1 156o 1 0 1 157e 1 0 1 15gm 1 0 1
  15je 1 0 1 15jk 1 0 1 15to 1 0 1 15ts 1 0 1 15us 1 0 1 168q 1 0 1 16bc 1 0 1 16bo 1 0 1 16fi
  1 0 1 16g0 1 0 1 16g4 1 0 1 16gm 1 0 1 16i8 1 0 1 1744 1 0 1 17qa 1 0 1 17qs 1 0 1 17su 1 0 1
  17u0 1 0 1 17ue 1 0 1 17uw 1 0 1 17v2 1 0 1 17x8 1 0 1 17xe 1 0 1 17ya 1 0 1 17yi 1 0 1 17z6
  1 0 1 180m 1 0 1 181e 1 0 1 181s 1 0 1 1850 1 0 1 185s 1 0 1 185y 17 0 1 iwv 2 0 1 iw7 1g 0 1
  1z 2 0 1 dua 1 1 1 due 6w 1 1 cpt 2 1 2 cgh 1 0 1 cpv 2 0 1 cgh 1 2 1 cpz 3 5 1 cgj 6 0 1 cp7
  1 2 1 cqd 3 0 1 cp1 1 9 1 cqf a k 1 cm3 m 1 1 crl 2 1 1 chr 2 0 1 chl 1 0 1 chj 1 0 1 chb 1 0
  1 ch5 1 0 1 ch3 1 0 1 crn 1 0 1 cgz 1 0 1 cgx 1 1 1 crr 2 0 1 crp 1 1 1 crn 2 0 1 crh 1 0 1
  crf 1 4 1 crd 5 0 1 cr9 1 0 1 cr3 1 0 1 cql 1 0 1 cq9 1 0 1 cq1 1 1 1 cgx 2 2 1 cpl 3 1 1 cn9
  2 0 1 cn5 1 1 1 cmp 2 0 1 cmn 1 0 1 cm5 1 0 1 cm1 4 0 1 b8c 1 0 1 bg2 1 0 1 b8q 1 0 1 eq4 1 0
  1 b8o 1 0 1 bak 1 0 1 b8m 1 0 1 qpe 1 0 1 bcu 1 0 1 b98 1 0 1 b7u 1 0 1 fmg 1 0 1 euc 1 0 1
  bhy 4l 0 1 due 1 0 1 hgu 1 0 1 k8y 1 0 1 sy8 p 0 1 d6n 1 1 1 d6l 2 2 1 d6j 3 0 1 d6h 1 1 1
  d6f 2 4 1 d6d 5 0 1 1c10 1 0 1 1dua 1 0 1 1eqw 1 0 1 1gk6 1 0 1 1hgs 1 0 1 1ide 1 0 1 1k6o 1
  0 1 1lzy 1 0 1 1mwk 1 0 1 1opu 1 0 1 1pmg 1 0 1 1qj2 1 0 1 1rfo 1 0 1 1sca 3 0 1 1mjo 2 0 1
  av4 1 0 1 b2u 1 0 1 avi 1 0 1 ecw 1 0 1 b34 1 0 1 c7k 1 0 1 auy 1 0 1 c7c 1 0 1 azu 1 0 1 cxc
  1 0 1 kqk 1 0 1 og0 1 0 1 ms0 1 0 1 ks6 1 0 1 11mu 1 0 1 eg0 1 0 1 ka2 1 0 1 l6a 1 0 1 kq6 1
  0 1 rx2 1 0 1 d82 1 0 1 p8o 1 0 1 zkm 1 0 1 ryk 1 0 1 coo 1 0 1 s5a 1 0 1 qbe 1 0 1 fcg 1 0 1
  1122 1 0 1 c2i 1 0 1 cys 1 0 1 n0y 1 0 1 1422 1 0 1 b8g 1 0 1 c8e 1 0 1 mf4 1 0 1 ato 1 0 1
  avk 1 0 1 atm 1 0 1 h32 1 0 1 d5i 1 0 1 cv8 1 0 1 g62 1 0 1 g3a 1 0 1 qy6 1 0 1 b6w 1 0 1 zle
  1 0 1 cwa 1 0 1 f6g w 0 1 uz 1 0 1 ux 1 0 1 uv 1 0 1 ut 1 1 1 ur 2 0 1 up 1 0 1 un 1 0 1 ul 1
  0 1 uj 1 0 1 uh 1 0 1 uf 1 0 1 ud 1 0 1 ub 1 0 1 u9 1 0 1 u7 1 0 1 u5 1 0 1 u1 1 0 1 tz 1 0 1
  tx 1 5 1 tv 6 0 1 tr 1 0 1 tn 1 0 1 tj 1 0 1 tf 1 4 1 tb 5 0 1 t9 1 0 1 t7 1 5 1 t5 6 3 1 t3
  mrp m 2 2 1s d 2 2 s 0 1 1s4j 1 0 1 1s4h 3p 6 2 2 g u 2 2 1q 0 1 1 9 1 2 2 4 0 1 1iiv 1 4 2 2
  d 0 1 2 2 0 1 1t8v 3 1 2 2 6 9 2 2 k 0 1 1taf 1 0 1 1tb1 1 0 1 1tat 1 0 1 1ta9 1 0 1 1taf 2 0
  1 1t7n 1 0 1 1t8z 1 0 1 1t7t 1 0 1 1fk 1 7 2 2 g 0 1 2n 1 0 1 1tad 1 0 1 1ilr 1 1 2 2 4 0 1
  1tcd 1 7 2 2 g 0 1 1toh l 0 1 1u63 1 0 1 1u71 1 0 1 1u6x 1 0 1 1u6d 1 0 1 2 3 0 1 1twh 1 0 1
  1tu3 o3 0 1 1nt 1 0 1 23 1 0 1 1uqt 1 0 1 p a 0 1 1upj 7 27 1 1nz3 fbk 0 1 16y7 1 0 1 1lp5 1
  0 1 15yn 1 0 1 16r9 1 0 1 1ilh 1 0 1 1vhh 1 0 1 1t8h 3 0 1 1r3j 1 0 1 14s1 1 0 1 1slj 1 0 1
  1r47 1 0 1 1not 1 0 1 1fm1 1 0 1 1c0j 1 0 1 19cx 1 0 1 18rx 1 0 1 18ab 1 0 1 15af 1 0 1 1kir
  1 0 1 1jar 1 0 1 1htl 1 0 1 1gmp 1 0 1 1a5x 1 0 1 14yl 1 0 1 11ld 1 0 1 1ve9 1 0 1 1tfx 1 0 1
  1k4x 1 0 1 1hc5 1 0 1 19er 1 0 1 zyb 1 0 1 1pk1 1 0 1 1i7h 1 0 1 19kb 1 0 1 185b 1 0 1 1nef 1
  0 1 1b4r 1 0 1 18nj 1 0 1 1ozf 1 0 1 1lpf 1 0 1 1j7j 1 0 1 1h0d 1 0 1 158b 1 0 1 1v0t 1 0 1
  1u5p 1 0 1 1tpd 1 0 1 1mmv 1 0 1 1k8r 1 0 1 1hdv 1 0 1 1fh3 1 0 1 1bvp 1 0 1 19i5 1 0 1 19df
  1 0 1 16dr 1 0 1 12q3 1 0 1 111v 1 0 1 101r 1 0 1 1eu5 1 0 1 1egp 1 0 1 1cu1 1 0 1 1aeh 1 0 1
  14dx 1 0 1 zup 1 0 1 17md 1 0 1 1rd1 1 0 1 1oxp 1 0 1 1dc7 1 0 1 1bpp 1 0 1 1haf 1 0 1 1erd 1
  0 1 16vf 1 0 1 12ub 1 0 1 1rdv 1 0 1 1pzl 1 0 1 1kkx 1 0 1 1j39 1 0 1 1im5 1 0 1 1d1b 1 0 1
  1cmp 1 0 1 134b 1 0 1 1trz 1 0 1 1bpr 1 0 1 1u5r 1 0 1 1u6p 1 0 1 1e9f 1 0 1 1ctt 1 0 1 1adp
  1 0 1 132f 1 0 1 17eb 1 0 1 1nh3 1 0 1 1kmr 1 0 1 17lp 1 0 1 1vm1 1 0 1 1q7j 1 0 1 1okb 1 0 1
  1gvn 1 0 1 1g4j 1 0 1 1tp3 1 0 1 1eq9 1 0 1 1v0r 1 0 1 1oqh 1 0 1 1voz 1 0 1 1jjr 1 0 1 1mg1
  1 0 1 1d3j 1 0 1 1tfz 1 0 1 1rmj 1 0 1 1fiv 1 0 1 1aa1 1 0 1 17rd 1 0 1 1jzf 1 0 1 15s1 1 0 1
  1jo3 1 0 1 1nft 1 0 1 1au5 1 0 1 1n6x 1 0 1 1g69 1 0 1 1vgx 1 0 1 1ue5 1 0 1 1u8v 1 0 1 1l9t
  1 0 1 1d7r 1 0 1 1b15 1 0 1 17px 1 0 1 14yl 1 0 1 1tsj 1 0 1 1ta3 1 0 1 1r8b 1 0 1 1p2j 1 0 1
  1md7 1 0 1 1ibv 1 0 1 1eph 1 0 1 13g1 1 0 1 11kp 1 0 1 zxd 1 0 1 zud 1 0 1 1ty5 1 0 1 1lzd 1
  0 1 1k4p 1 0 1 15xx 1 0 1 1p9v 1 0 1 1o1p 1 0 1 1nvj 1 0 1 1mul 1 0 1 1iot 1 0 1 1hub 1 0 1
  1gk5 1 0 1 1ehh 1 0 1 1cub 1 0 1 1bv3 1 0 1 161v 1 0 1 1a39 1 0 1 15nx 1 0 1 14f5 1 0 1 1u6h
  1 0 1 1tyr 1 0 1 1t4x 1 0 1 1i25 1 0 1 18l7 1 0 1 17u5 1 0 1 1p69 1 0 1 1opn 1 0 1 1nbl 1 0 1
  1k31 1 0 1 1djj 1 0 1 1h0j 1 0 1 1vgn 1 0 1 1s9r 1 0 1 1qbp 1 0 1 1plt 1 0 1 1onz 1 0 1 1gxh
  1 0 1 1gnd 1 0 1 1c89 1 0 1 1byr 1 0 1 14vt 1 0 1 1307 1 0 1 12vp 1 0 1 12k7 1 0 1 1v83 1 0 1
  1ekv 1 0 1 1539 1 0 1 133z 1 0 1 1odr 1 0 1 1vmv 1 0 1 1upt 1 0 1 1qcb 1 0 1 1q7v 1 0 1 1mix
  1 0 1 1ks9 1 0 1 1hpf 1 0 1 1fy5 1 0 1 1a4r 1 0 1 15l9 1 0 1 zn1 1 0 1 1m61 1 0 1 13cf 1 0 1
  1u2j 1 0 1 1lsp 1 0 1 1lm3 1 0 1 1jip 1 0 1 1izh 1 0 1 1gud 1 0 1 1gbr 1 0 1 1f45 1 0 1 1da5
  1 0 1 12hv 1 0 1 1uiv 1 0 1 1nwn 1 0 1 1391 1 0 1 1v0x 1 0 1 1px3 1 0 1 1j9z 1 0 1 1655 1 0 1
  1oyh 1 0 1 1oa1 1 0 1 1ll1 1 0 1 1h2f 1 0 1 138r 1 0 1 1u93 1 0 1 1ti5 1 0 1 1q7n 1 0 1 1me1
  1 0 1 1lwl 1 0 1 1ldf 1 0 1 1jp7 1 0 1 1gvv 1 0 1 1g5h 1 0 1 1cd5 1 0 1 18of 1 0 1 18nh 1 0 1
  154p 1 0 1 134f 1 0 1 1tuf 1 0 1 1izn 1 0 1 1ti7 1 0 1 1hrv 1 0 1 1god 1 0 1 19t7 1 0 1 138b
  1 0 1 10z9 1 0 1 102v 1 0 1 1ltl 1 0 1 1jdf 1 0 1 1bff 1 0 1 1e8n 1 0 1 1e3z 1 0 1 1djh 1 0 1
  1hf7 1 0 1 1i9v 1 0 1 17pj 1 0 1 1vnd 1 0 1 1axb 1 0 1 1ua1 1 0 1 1ucx 1 0 1 1pdh 1 0 1 1nq5
  1 0 1 1dg9 1 0 1 1qm5 1 0 1 1jnx 1 0 1 1m77 1 0 1 166v 1 0 1 18xj 1 0 1 13ef 1 0 1 18fx 1 0 1
  1pbj 1 0 1 1uon 1 0 1 1swp 3 0 1 1rvv 2 0 1 1mbf 3 0 1 1ugd 1 0 1 1hav 1 0 1 1fvd 1 0 1 1ewn
  1 0 1 1eut 1 0 1 1euh 1 0 1 1es7 1 0 1 130r 1 0 1 1dj1 1 0 1 1cch 2 0 1 19uj 2 0 1 17wz 3 0 1
  15uh 1 0 1 15jl 4 0 1 12et 1 0 1 12e5 1 0 1 12br 1 0 1 10j5 1 0 1 15lr 1 0 1 13an 1 0 1 1vcz
  1 0 1 1uvn 1 0 1 1uq1 1 0 1 1u4z 1 0 1 1u3j 1 0 1 1txj 1 0 1 1t0x 1 0 1 1sv5 1 0 1 1spr 1 0 1
  1rzl 1 0 1 1rtv 1 0 1 1qct 1 0 1 1qcb 1 0 1 1opd 1 0 1 1odn 1 0 1 1obl 1 0 1 1o63 1 0 1 1mub
  1 0 1 1mm7 1 0 1 1mcj 1 0 1 1lkt 1 0 1 1jmj 1 0 1 1jdj 1 0 1 1iyx 1 0 1 1i2b 1 0 1 1hrv 1 0 1
  1gzz 1 0 1 1f8z 1 0 1 1ezf 1 0 1 1eyv 1 0 1 1eyz 1 0 1 1eyl 1 0 1 1eyb 1 0 1 1exz 1 1 1 1evd
  2 0 1 1elj 1 0 1 1ehz 1 0 1 1e0b 1 0 1 1d51 1 0 1 1d3x 1 0 1 1d0v 1 0 1 1cjz 1 0 1 1cbv 1 0 1
  1bkt 3 0 1 1amn 1 0 1 18rj 1 0 1 18k5 1 0 1 1801 1 0 1 17wz 1 0 1 17a9 1 0 1 177d 1 0 1 165b
  1 0 1 15y5 1 0 1 13bd 1 0 1 12vn 1 0 1 12sd 1 0 1 1otn 1 0 1 3ls4 1 0 1 1bjd 3 0 1 1w2b 1 0 1
  1unr 1 0 1 1us3 1 0 1 1vj9 1 0 1 1uu5 1 0 1 1uqx 1 0 1 1u8t 1 0 1 1u61 1 0 1 1t4l 1 0 1 1t8n
  1 0 1 1t4x 1 0 1 1t0x 1 0 1 1s1v 1 0 1 1rwz 1 0 1 1roz 1 0 1 1ro5 1 0 1 1r97 1 0 1 1qy9 1 0 1
  1pi7 1 0 1 1phv 1 0 1 1p9x 1 0 1 1p67 1 0 1 1opn 1 0 1 1oj5 1 0 1 1on3 1 0 1 1ofp 1 0 1 1oib
  1 0 1 1oa9 1 0 1 1o6n 1 0 1 1nkh 1 0 1 1nfn 1 0 1 1ncp 1 0 1 1myb 1 0 1 1mih 1 0 1 1m9h 1 0 1
  1m9b 1 0 1 1m63 1 0 1 1kjb 1 0 1 1kfr 1 0 1 1ju3 1 0 1 1j7d 1 0 1 1j8b 1 0 1 1j3j 1 0 1 1ipl
  1 0 1 1i6z 1 0 1 1fqj 1 0 1 1hw1 1 0 1 1hpb 1 0 1 1hij 1 0 1 1h0f 1 0 1 1gs7 1 0 1 1gpb 1 0 1
  1gct 1 0 1 1gcr 1 0 1 1g3b 1 0 1 1g2f 1 0 1 1g13 1 0 1 1fwd 1 0 1 1fwz 1 0 1 1fb1 1 0 1 1ek5
  1 0 1 1e55 1 0 1 1dut 1 0 1 1dif 1 0 1 1d9z 1 0 1 1crp 1 0 1 1cgp 1 0 1 1b5t 1 0 1 1ax5 1 0 1
  19iv 1 0 1 18tl 1 0 1 18pt 1 0 1 18oz 1 0 1 188j 1 0 1 185f 1 0 1 187z 1 0 1 1851 1 0 1 1859
  1 0 1 1869 1 0 1 1823 1 0 1 17xn 1 0 1 17ch 1 0 1 16hf 1 0 1 1601 1 0 1 15jp 1 0 1 157h 1 0 1
  13mb 1 0 1 13gn 1 0 1 13ab 1 0 1 132z 1 0 1 1311 1 0 1 130f 1 0 1 12xt 1 0 1 11th 1 0 1 100z
  1 0 1 3b3q 1 0 1 3b3c 1 0 1 3fns 1 0 1 23jd 1 0 1 21rp 1 0 1 21px 1 0 1 3roo 1 0 1 3vuc 1 0 1
  49a0 1 0 1 106h 1 0 1 102d 1z 0 1 2ovv 1 0 1 2owx 1 1 1 2owt 2 2 1 2owh 3 0 1 2ovx 1 0 1 2ovv
  1 0 1 2r5n 2j 1 2 2orz 1 1 2 2os1 2c 1 2 2oth 1 1 2 2otj fq 0 1 2sav 1 0 1 29en 2 1 1 2sa9 2
  0 1 2sbr 1 0 1 2sa5 1 1 1 29dt q 0 1 2fqx 1 0 1 2fr1 3 1 1 2sd5 2 0 1 2s8n 1 0 1 2s8l 1 1 1
  29ft 2 1 1 29g5 2 1 1 29gl 2 1 1 29gt 2 3 1 29gp 6 0 1 2sbb 1 0 1 2sb9 8 0 1 2sef 1 0 1 29i7
  3 0 1 2sdt 1 0 1 2sdx 1 0 1 2sdp 1 0 1 2sff 1 0 1 2ft3 1 1 1 2sf5 2 0 1 2san 1 0 1 2sal 1 1 1
  29ht 2 0 1 2sfr 1 0 1 2sfn 1 1 1 2sfh 2 0 1 2sff 1 0 1 2sen 1 0 1 2sel 1 0 1 2sep 2 0 1 2sd3
  1 1 1 2sg9 2 0 1 2set l 1 1 2q4d 2 1 1 2q4f 2 1 1 2q4h 2 1 1 2q4j 2 1 1 2q4l 3d v 1 2sov w p
  1 2sn3 q z 1 2sov 10 1 1 2chf 2 0 1 2sth 1 1 1 29wr 2 0 1 29xh 1 0 1 29jn 1 0 1 29k7 1 0 1
  29or 1 0 1 29op 1 0 1 29on 1 0 1 29ol 1 0 1 29oj 1 0 1 29ld 1 0 1 29lb 1 0 1 29l9 1 0 1 29nb
  1 0 1 29k7 1 0 1 29p9 1 0 1 29p7 1 0 1 29p5 1 0 1 29p3 1 1 1 29p1 2 0 1 29oz 1 0 1 29ox 1 0 1
  29ov 1 0 1 29ot 1 0 1 29or 1 0 1 29op 1 0 1 29on 1 0 1 29ol 1 0 1 29oj 1 0 1 29oh 1 0 1 29of
  1 0 1 29ob 1 0 1 29o9 1 0 1 29o7 1 5 1 29o5 6 0 1 29o1 1 0 1 29nx 1 0 1 29nt 1 0 1 29np 1 4 1
  29nl 5 0 1 29nj 1 0 1 29nh 1 5 1 29nf 6 0 1 29nd 1 0 1 29n7 1 1 1 29s9 3 1 1 2m9t 2 1 2 2m0h
  1 0 1 2m9v 2 0 1 2m0h 1 2 1 2m9z 3 5 1 2m0j 6 0 1 2m97 1 2 1 2mad 3 0 1 2m91 1 9 1 2maf d 5 1
  2m69 8 5 1 2m6d 8 5 1 2m6h 8 2 1 2m6l 6 1 1 2su3 2 0 1 2stn 2 0 1 2su3 1 0 1 2su7 1 0 1 2g6x
  2 0 1 2eh7 1 3 1 2fu9 4 0 1 2e8p 1 0 1 2e6d sy 13 1 28 4w z 1 28 5c i 2 26 1 4 2 26 c 6 2 26
  g 2 2 26 8 0 1 26 do 1 1 2uzl 2 0 1 2vqx 1 0 1 2v2t 1 0 1 2v6r 2 1 2 2v2f 1 0 1 10eb 2 0 1
  2v2j 1 1 1 2v6x 2 0 1 2kfr 1 0 1 2v6z 1 0 1 2v6p 1 0 1 2v2l 1 0 1 2v6h 1 0 1 2v6n 1 0 1 2v6t
  1 0 1 2v3l 1 0 1 2vob 1 0 1 2v3n 1 0 1 2v6n 1 0 1 2v53 1 1 1 2v31 2 0 1 2v6l 1 0 1 2d3k 1 0 1
  11y5 1 0 1 2v6n 1 0 1 2d3g 1 0 1 2v4z 1 0 1 2d3e 1 0 1 2vrn 1 1 1 2v6h 2 0 1 2vzb 1 0 1 2v6f
  1 0 1 2d36 1 1 1 2v6d 2 0 1 2v6b 1 0 1 2v45 1 0 1 2v4b 1 0 1 10gb 1 0 1 2v4d 1 0 1 2v65 1 0 1
  2em5 2 0 1 2v5x 1 1 1 2v4z 2 0 1 2v5l 1 2 1 2vhn 3 0 1 2d2a 1 0 1 2d3c xy 1e 1 3k 5s l 1 1s
  28g v 1 1s gww v 1 1s 2o o 1 1i ily p 1 51wp q 9 1 520v 1e8 p 1 54ql q p 1 54s1 q p 1 54th q
  c 2 54ux 1 2 2 54ux 8 8 2 54ux h p 1 54wd q p 1 54xt q 1 2 54z9 3 0 1 54z9 3 0 1 54z9 3 1 1
  54z9 4 3 1 54z9 5 7 1 54z9 8 3 1 550p 5 a 2 550p 3 2 2 550p 8 4 2 550p a p 1 5525 q p 1 553l
  q 1 1 5551 3 3 1 5551 6 7 1 5551 9 6 1 5551 8 p 1 556h q 1 1 557x 3 3 1 557x 5 4 1 557x 6 0 1
  557x 4 6 1 557x 8 p 1 559d q p 1 55at q p 1 55c9 q p 1 55dp q p 1 55f5 q p 1 55gl q p 1 55i1
  q p 1 55jh q p 1 55kx q p 1 55md q p 1 55nt q p 1 55p9 q p 1 55qp q 0 1 55gl 1 0 1 5523 3 g 1
  54h9 h 0 1 54ht 1 6 1 54h9 7 0 1 4sj7 1 g 1 54ip j 5 1 54ip 6 0 1 4skx 1 0 1 54jx 1 0 1 54jt
  1 0 1 54jr 1 0 1 54j5 1 0 1 54jh 1 0 1 54jl 1 g 1 54kh h 0 1 54l1 1 6 1 54kh 7 0 1 4smf 1 g 1
  54lx j 5 1 54lx 6 0 1 4so5 1 0 1 54n5 1 0 1 54n1 1 0 1 54mz 1 0 1 54md 1 0 1 54mp 1 0 1 54mt
  1 g 1 54np h 0 1 54o9 1 6 1 54np 7 0 1 4spn 1 g 1 54p5 j 5 1 54p5 6 0 1 4srd 1 0 1 54qd 1 0 1
  54q9 1 0 1 54q7 1 0 1 54pl 1 0 1 54px 1 0 1 54q1 1 g 1 54qx h 0 1 54rh 1 6 1 54qx 7 0 1 4ssv
  1 g 1 54sd j 5 1 54sd 6 0 1 4sul 1 0 1 54tl 1 0 1 54th 1 0 1 54tf 1 0 1 54st 1 0 1 54t5 1 0 1
  54t9 1 g 1 54u5 h 0 1 54up 1 6 1 54u5 7 0 1 4sw3 1 g 1 54vl j 5 1 54vl 6 0 1 4sxt 1 0 1 54wt
  1 0 1 54wp 1 0 1 54wn 1 0 1 54w1 1 0 1 54wd 1 0 1 54wh 5 9 1 56bf a 9 1 56bz a 9 1 56cj a 9 1
  56d3 a 9 1 56dn 1mi 8 1 581r 9 2 1 581p 3 a 1 581n b 0 1 581j 1 1 1 581h 2 0 1 3fy9 1 0 1
  57tv 1 0 1 5817 1 0 1 5815 1 0 1 57t5 1 0 1 57wf 1 0 1 57up 1 8 1 583l 9 1 1 583j 2 1 1 583f
  2 0 1 583d 1 5 1 583b 6 1 1 5839 2 0 1 57zf 1 0 1 582r 1 0 1 582v 1 0 1 582d 1 0 1 57y7 1 0 1
  3g39 1 0 1 57xz 1oz x 1 1w zk 1 1 5cq9 2 0 1 5cq3 1 0 1 5cpz 2 0 1 5cop 1 0 1 5cpz 1 0 1 5cqb
  1 0 1 5cpt 1 0 1 5cot 1 3 1 5cp9 4 0 1 5cqd 1 0 1 5cq3 1 0 1 5cpp 1 0 1 5cqf 1 0 1 5cpr 1 0 1
  5cqr 1 0 1 5cqn 1 1 1 5cr9 2 0 1 5cr5 1 0 1 5cr3 1 0 1 5cqt 1 0 1 5cqr 1 0 1 5cqp 1 0 1 5cnv
  1 0 1 5cjp 1 0 1 5cl5 1 0 1 5cnz 2 0 1 5cs1 1 0 1 5crv 2 0 1 5cqh 3 0 1 5cs3 2 0 1 5cql 1 3 1
  5cr1 4 0 1 5cs5 1 0 1 5crv 1 0 1 5crh 1 0 1 5cs7 1 0 1 5crj 2 0 1 5csf 1 1 1 5ct1 2 0 1 5csx
  2 0 1 5csl 2 0 1 5csh 7 0 1 5ctn 5 0 1 5ctv 2 0 1 5csd 2 1 2 5cst 3 0 1 5ctx 1 0 1 5ctn 2 0 1
  5ctz 1 0 1 5ctb 2 0 1 5cu7 3 0 1 5cup 2 0 1 5cud 2 0 1 5cu9 2 0 1 5cn9 2 0 1 5crj 2 0 1 5cvl
  1 0 1 5cvf 2 0 1 5cu1 3 0 1 5cvn 1 0 1 5cv5 1 0 1 5cu5 1 1 2 5cul 3 0 1 5cul 1 0 1 5cvp 1 0 1
  5cvf 1 0 1 5cv1 1 0 1 5cvr 1 0 1 5cv3 2 0 1 5cvz 1 1 1 5cwl 2 0 1 5cwh 2 0 1 5cw5 1 0 1 5cw3
  1 0 1 5cw1 1 0 1 5ct7 2 0 1 5cqh 2 1 1 5cxd 2 0 1 5cx7 1 0 1 5cx3 1 1 1 5cvt 2 0 1 5cx3 1 0 1
  5cxf 1 0 1 5cwx 1 0 1 5cvx 2 2 1 5cwd 3 0 1 5cxh 1 0 1 5cx7 1 0 1 5cwt 1 0 1 5cxj 1 0 1 5cwv
  1 0 1 5cxv 1 0 1 5cxr 1 1 1 5cyd 2 0 1 5cy9 1 0 1 5cy7 1 0 1 5cxx 1 0 1 5cxv 1 0 1 5cxt 6 0 1
  5cz5 1 0 1 5cyz 1 0 1 5cyv 2 0 1 5cxl 1 0 1 5cyv 1 0 1 5cz7 1 0 1 5cyp 1 0 1 5cxp 2 2 1 5cy5
  3 0 1 5cz9 1 0 1 5cyz 1 0 1 5cyl 1 0 1 5czb 1 0 1 5cyn 1 0 1 5czn 1 0 1 5czj 1 1 1 5d05 2 0 1
  5d01 1 0 1 5czz 1 0 1 5czp 1 0 1 5czn 1 0 1 5czl hc 0 1 5g9b 1 0 1 5g8j 4 p 1 5g9p 5u 0 1
  4xi1 e 0 1 4dxl 1 0 1 4goj 1 0 1 4jnv 1 0 1 4xhz 1 0 1 4lqn 1 0 1 4hkl 1 0 1 3yat 1 0 1 4hjv
  1 0 1 4lpj 1 0 1 4cfl 1 0 1 4835 1 0 1 4cn7 1 0 1 4k9p 1 0 1 4f1d 1 0 1 4kkh 1 0 1 4cm5 1 0 1
  4kcl 1 0 1 43b1 1 0 1 46it 1 0 1 3x83 1 0 1 4hnr 1 0 1 4jiv 1 0 1 48wz 1 0 1 4dur 1 0 1 4dk5
  1 0 1 4lzl 1 0 1 4lz5 1 0 1 3vsx 1 0 1 4fpn 1 0 1 4lxb 1 0 1 4jn9 1 0 1 4dov 1 0 1 3wxr 1 0 1
  4dyz 1 0 1 44td 1 0 1 44fl 1 0 1 4jmf 1 0 1 4961 1 0 1 4c49 1 0 1 4c4d 1 0 1 46ix 1 0 1 4k99
  1 0 1 4iyv 1 0 1 3vff l 0 1 4f3l 1 0 1 4jpf 1wf 9 1 5klb 1dsg 0 1 7hc5 1 0 1 7hch 1 0 1 7hc1
  1 0 1 2pj5 1 0 1 7gw7 1 0 1 7grx 1 0 1 7gr9 1 0 1 7gnd 1 0 1 7ggr 1 0 1 7gf3 1 0 1 7gat 1 0 1
  7gc7 1 0 1 7rh7 1 0 1 2nj9 1 0 1 7g5d 1 0 1 7g51 1 0 1 7g47 1 0 1 7g37 1 0 1 2nzf 1 0 1 7rg3
  1 0 1 7g49 1 0 1 7g27 1 0 1 2nx1 1 0 1 7g1r 1 0 1 7g13 1 0 1 7h5l 1 0 1 7g0r 1 0 1 7g0b 1 0 1
  14e1 1 0 1 7fwv 1 0 1 7fw5 1 0 1 7ren 1 0 1 7ft5 1 0 1 7fsl 1 0 1 7fq7 1 0 1 7fpz 1 0 1 7rbx
  1 0 1 7fln 1 0 1 7fll 1 0 1 7fk5 1 0 1 7fiz 1 1 1 7fif 2 0 1 7fhj 1 0 1 7fet 1 0 1 7fef 1 0 1
  7fdz 1 0 1 7fcn 1 1 2 7fc5 1 0 1 7fc3 2 0 1 7fc7 1 0 1 2m1b 1 0 1 73wp 1 0 1 7f87 1 0 1 7f73
  1 0 1 2lk9 1 0 1 7f6j 1 0 1 7f69 1 0 1 7f55 1 0 1 7ewr 1 0 1 7f2h 1 0 1 7f1n 1 0 1 7ezx 1 0 1
  7ewr 1 0 1 7es5 1 0 1 7eqr 1 0 1 7en3 1 0 1 7em9 3 0 1 7ejf 1 0 1 7eih 1 0 1 7ei3 1 0 1 7ehb
  1 0 1 7dyh 1 0 1 7edn 1 0 1 7dyj 1 0 1 7e9l 1 0 1 7e7p 1 0 1 7fyp 1 0 1 7d8l 1 0 1 7don 1 0 1
  7dml 1 0 1 7dl9 1 0 1 7dsj 1 0 1 7djb 1 0 1 7djf 1 0 1 7dcn 1 0 1 2hux 1 0 1 7d8v 1 0 1 7d8n
  1 0 1 7d7v 1 0 1 7d6t 1 0 1 7d6f 1 0 1 7d2x 1 0 1 2h67 1 0 1 2h2l 1 0 1 7cvf 1 0 1 7csv 1 0 1
  7cs9 1 0 1 7cwp 1 0 1 7cov 1 0 1 7qpd 1 0 1 7qon 1 0 1 7cg1 3 0 1 2fyf 1 0 1 7c5v 1 0 1 7c4r
  1 0 1 7c3z 1 0 1 7c3d 1 0 1 2fg1 1 0 1 7c2t 1 0 1 7c2h 1 0 1 7arl 1 0 1 7c11 1 0 1 7qi1 1 0 1
  7bxp 1 0 1 7bwz 1 0 1 7bsh 1 0 1 7bvd 1 1 2 2ect 1 0 1 7bld 2 0 1 7bj3 1 0 1 7bjb 1 0 1 7bif
  1 1 1 7bcv 2 0 1 7q93 1 0 1 7bbh 1 0 1 7b95 1 0 1 7b81 1 0 1 7b5n 1 0 1 7q6j 1 0 1 2cy3 1 0 1
  7q57 1 0 1 7b1x 1 0 1 7b1t 1 0 1 7b1p 1 0 1 7b0n 1 0 1 xkp 1 0 1 7axv 3 0 1 6x43 3 0 1 7q1p 1
  0 1 2665 1 0 1 1njv 1 0 1 7ast 1 0 1 7asd 1 0 1 7q0f 1 0 1 7apv 1 0 1 7an3 1 0 1 7aml 1 0 1
  7akr 1 0 1 7ad9 1 0 1 7pvx 1 0 1 7pxn 1 0 1 7acd 1 0 1 2avz 1 0 1 7a9n 1 0 1 7a2j 1 0 1 7a2d
  1 0 1 7a2b 1 0 1 7a2h 1 0 1 79zz 1 0 1 79yx 1 0 1 79wz 1 0 1 79xt 1 0 1 79x9 1 0 1 79up 1 0 1
  79tn 1 0 1 79th 1 0 1 79s3 1 0 1 79rj 1 0 1 79nx 1 0 1 79jb 1 0 1 79hf 1 0 1 79al 1 0 1 2993
  1 0 1 79br 1 0 1 79ff 1 0 1 799h 1 0 1 7981 1 0 1 792p 1 0 1 28wp 1 0 1 78zd 1 0 1 794l 1 0 1
  7967 1 0 1 7pk7 1 0 1 78vn 1 0 1 78uj 1 0 1 78sv 1 0 1 78v1 1 0 1 7ph1 1 0 1 78j5 1 0 1 78hl
  1 0 1 27b3 1 0 1 78b3 1 0 1 77vr 1 0 1 785j 1 0 1 7p7t 1 0 1 781n 1 0 1 7p8v 1 0 1 7pax 1 0 1
  7gcf 1 0 1 7gcb 1 0 1 77vr 1 0 1 781d 1 0 1 6xqp 1 0 1 7lrv 1 0 1 77up 1 0 1 77uj 1 0 1 77u9
  1 0 1 77qx 1 0 1 77rl 1 0 1 25v7 1 0 1 7p61 1 0 1 77ih 1 0 1 77p1 1 0 1 77dp 1 0 1 77ax 1 0 1
  25m3 1 0 1 77aj 1 0 1 77gr 1 0 1 7737 1 0 1 7p1v 1 0 1 770r 1 0 1 76vf 1 0 1 76rj 1 0 1 76h1
  1 0 1 24r5 1 0 1 76eb 1 0 1 7ovf 1 0 1 76aj 1 0 1 23yp 1 0 1 767t 1 0 1 7osn 1 0 1 7669 1 0 1
  763t 1 1 1 762d 2 0 1 2383 1 0 1 2evt 1 0 1 2325 1 0 1 75uf 1 0 1 22d9 1 0 1 75o9 1 0 1 75nj
  1 0 1 75t9 1 0 1 75jl 1 0 1 75hf 1 0 1 75eb 1 0 1 75hd 1 0 1 75f7 1 0 1 75ef 1 0 1 75dr 1 0 1
  228f 1 0 1 75id 1 0 1 754h 1 0 1 7511 1 0 1 7oh9 1 0 1 74vz 1 0 1 74w9 1 0 1 21kn 1 0 1 757t
  1 0 1 74n5 1 0 1 21cz 1 0 1 21ad 1 0 1 74if 1 0 1 74c3 1 0 1 74dn 1 0 1 74dv 1 0 1 7ocf 1 0 1
  74bd 1 0 1 748l 1 0 1 748z 1 0 1 7461 1 0 1 2odn 1 0 1 73xp 1 0 1 206r 1 0 1 73sz 1 0 1 1zon
  1 0 1 73lb 1 0 1 73kn 1 0 1 73j7 1 0 1 1yr9 1 0 1 73gn 1 0 1 73fj 1 0 1 1yap 1 0 1 1xyd 1 0 1
  732z 1 0 1 7323 1 0 1 7ny3 1 0 1 730r 3 0 1 72rx 1 0 1 72qt 1 0 1 72pp 1 0 1 72on 1 0 1 72kv
  1 0 1 7nsf 1 0 1 72fz 1 0 1 1wcd 1 0 1 72en 1 0 1 1w7d 1 0 1 72bz 1 0 1 2d6b 1 0 1 7237 1 0 1
  1v03 1 0 1 1uyv 1 0 1 1ur5 1 0 1 7ngj 1 0 1 7nfx 1 0 1 71qv 1 0 1 1uhn 1 0 1 1uhr 1 0 1 1ufn
  1 0 1 1ue9 1 1 1 71ot 2 0 1 71ov 1 0 1 71mj 1 0 1 7ndr 1 0 1 71j1 1 0 1 7nd5 1 0 1 7n8r 1 0 1
  1t9b 1 0 1 718f 1 0 1 7151 1 0 1 711j 1 0 1 7n4r 1 0 1 1sgn 1 0 1 70u1 1 0 1 1sab 1 0 1 1s7z
  1 0 1 70r1 1 0 1 70lz 1 0 1 7n0x 1 0 1 70hd 1 0 1 70gv 1 0 1 70gn 1 0 1 1r5r 3 0 1 7081 1 0 1
  7mpn 1 0 1 1qaz 1 0 1 6zw7 1 0 1 6zw3 1 0 1 7mnt 1 0 1 1pzd 1 0 1 6zhj 1 0 1 7mh9 1 0 1 6zgf
  1 0 1 6zgr 1 0 1 6zf7 1 0 1 1osp 1 0 1 6z9t 1 0 1 7mc7 1 0 1 6z4d 1 0 1 6z15 1 0 1 6yxh 1 0 1
  7m9l 1 0 1 1nrn 1 0 1 1npz 1 0 1 7m7p 1 0 1 1nhz 1 0 1 6ygn 1 0 1 1nch 1 0 1 6yf9 1 0 1 6y9p
  1 0 1 6y95 1 0 1 1mpt 1 0 1 1mlt 1 0 1 6y49 1 0 1 1mej 1 0 1 6y3h 1 0 1 269t 1 0 1 7m1j 1 0 1
  6xzz 1 0 1 6xvj 1 0 1 7lyp 1 0 1 6xsd 1 0 1 7d0h 1 0 1 1lmn 1 0 1 1llx 1 0 1 267f 1 0 1 266z
  1 0 1 6xhv 1 0 1 6xhr 1 0 1 6s4d 1 0 1 7ltx 1 0 1 6xa3 1 0 1 6xah 1 0 1 6x9j 1 0 1 7g71 1 0 1
  6x8j 1 0 1 6x8h 1 0 1 6x7z 1 0 1 6x5r 1 0 1 1k8l 1 0 1 6x5x 1 0 1 6x2v 1 0 1 6wz1 1 0 1 6wuz
  1 0 1 6x2p 1 0 1 6wu7 1 0 1 6wrx 1 0 1 6wlr 1 0 1 6x09 1 0 1 6wtp 1 0 1 6wtn 1 0 1 6wst 1 0 1
  1jvf 1 0 1 1jeb 1 0 1 1jmp 1 0 1 7lkn 1 0 1 6wdp 1 0 1 6wdn 1 0 1 6wbr 1 0 1 1gw1 1 0 1 6w7j
  1 0 1 1ipt 1 0 1 7li9 1 0 1 7li3 1 0 1 1iil 1 0 1 1i2l 1 0 1 7lhp 1 0 1 6vut 1 0 1 6vu7 1 0 1
  6vtn 1 0 1 6vtl 1 0 1 6vq3 1 0 1 6vrz 1 0 1 6vkl 1 0 1 6vn3 1 0 1 6ver 1 0 1 6vjb 1 0 1 6vfn
  1 0 1 6ve7 1 0 1 7lcf 1 0 1 6v99 1 0 1 6v7j 1 0 1 7lap 1 0 1 6v2d 1 0 1 6v29 1 0 1 1fwb 1 0 1
  6uvx 1 0 1 6uvl 1 0 1 7l7p 1 0 1 6uu5 1 0 1 7s4d 1 0 1 1f09 1 0 1 1eq3 1 0 1 7l0d 1 0 1 7kzx
  1 0 1 6u71 1 0 1 6u2t 1 0 1 6tu5 1 0 1 6tix 1 0 1 1dg5 1 0 1 6te9 1 0 1 6td3 1 0 1 6t85 1 0 1
  6t33 1 0 1 1cgh 1 0 1 2njd 1 0 1 6syl 1 0 1 6szh 1 0 1 6swn 1 0 1 2n7h 1 0 1 6sk3 1 0 1 6sel
  1 0 1 19uj 1 0 1 19t3 1 0 1 6rvf 1 0 1 6rqb 1 0 1 6rol 1 0 1 19bh 1 0 1 6ro5 1 0 1 6r8d 1 1 1
  6qzl 2 0 1 6r4r 1 0 1 6qjn 1 0 1 6qi5 1 0 1 17fp 1 0 1 6pxh 1 0 1 7jxv 1 0 1 6pv5 1 0 1 16ur
  1 0 1 7jtj 1 0 1 6pgf 1 0 1 7c03 1 0 1 6pb7 1 0 1 15cx 1 0 1 1515 1 0 1 7jmb 1 0 1 7jlx 1 0 1
  6p0z 1 0 1 149t 1 0 1 7jir 1 0 1 1425 3 0 1 6ox9 1 0 1 13md 1 0 1 6on3 1 0 1 7jbz 1 0 1 6oj9
  1 0 1 6ocb 1 0 1 6oav 1 0 1 6o7l 1 0 1 7j3n 1 0 1 11gx 1 0 1 6nsf 1 0 1 6nbp 1 0 1 6n19 1 0 1
  7ipp 1 0 1 7io1 1 0 1 6mvj 1 0 1 z9f 1 0 1 7inl 1 0 1 z6h 1 0 1 yrt 1 0 1 ykl 1 0 1 6mcz 1 0
  1 7iin 1 0 1 6m9n 1 0 1 6m9f 1 0 1 6m93 1 0 1 6m8l 1 0 1 6m89 1 0 1 6m69 1 0 1 x89"

/-- Runs of characters that the same text stands for: the distance from the start of the run before,
the number of further characters, the length of the text, and its characters. -/
def replacementText : String := "
  4o 0 2 w lk 7 0 2 w lg 5 0 2 w ld 4 0 2 w mf 4 0 3 1d 6dg 1g 1 0 3 1d 6dg 1e 1 0 3 1f 6dg 1g
  36 0 2 2x lj 2 1 2 2x 2y d 1 2 30 53 a 0 2 jg 32 3f 2 2 2s am 3 2 2 30 2y 3 2 2 32 2y 13 2 2
  2s 3e 6f 0 2 w li 1 0 2 w lj 1 0 2 w lm 1 0 2 w mg 1 0 2 w lf 1 0 2 w ln 2v 0 2 lk ld 1i 0 2
  w qh a 0 2 w ld 1 0 3 w lk ld ea 0 2 12d 136 6m 0 2 17r 19w 1 0 2 18o 19w 1 0 2 1c7 19w 1 0 2
  18q 19w kg 0 2 1sl 1to 1 0 2 1sm 1to 1 0 2 1sn 1to 1 0 2 1ss 1to 1 0 2 1sx 1to 1 0 2 1sy 1to
  1 0 2 1t7 1to 1 0 2 1tb 1to 3h 0 2 1wh 1x8 1 0 2 1wi 1x8 2 0 2 1wv 1x8 2c 0 2 20i 20s 3 0 2
  20o 20s z 0 2 1zq 20s 1 0 2 1zr 20s 1 0 2 1zw 20s 3 0 2 20b 20s 72 0 2 275 27w 1 0 2 276 27w
  k6 0 2 2tp 2sy 3k 0 2 2x9 2wi 15 0 2 2wb 2vt 1 0 2 2wb 2w1 2u 0 2 30i 33r a 0 2 30s 33r 5 0 2
  30x 33r 5 0 2 312 33r 5 0 2 317 33r d 0 2 30g 33p a 0 2 31t 31u 2 0 2 31t 31w 1 0 2 33m 328 1
  0 3 33m 31t 328 1 0 2 33n 328 1 0 3 33n 31t 328 8 0 2 31t 328 i 0 2 32q 33r a 0 2 330 33r 5 0
  2 335 33r 5 0 2 33a 33r 5 0 2 33f 33r d 0 2 32o 33p 2xt 0 2 2p ji 6e 0 2 64g qh 1 0 2 64h qh
  1 0 2 64i qh 1 0 2 64j qh 1 0 2 64k qh 1 0 2 64l qh 1 0 2 64m qh 1 0 2 64n qh 1 0 2 64g qh 1
  0 2 64h qh 1 0 2 64i qh 1 0 2 64j qh 1 0 2 64k qh 1 0 2 64l qh 1 0 2 64m qh 1 0 2 64n qh 1 0
  2 65c qh 1 0 2 65d qh 1 0 2 65e qh 1 0 2 65f qh 1 0 2 65g qh 1 0 2 65h qh 1 0 2 65i qh 1 0 2
  65j qh 1 0 2 65c qh 1 0 2 65d qh 1 0 2 65e qh 1 0 2 65f qh 1 0 2 65g qh 1 0 2 65h qh 1 0 2
  65i qh 1 0 2 65j qh 1 0 2 674 qh 1 0 2 675 qh 1 0 2 676 qh 1 0 2 677 qh 1 0 2 678 qh 1 0 2
  679 qh 1 0 2 67a qh 1 0 2 67b qh 1 0 2 674 qh 1 0 2 675 qh 1 0 2 676 qh 1 0 2 677 qh 1 0 2
  678 qh 1 0 2 679 qh 1 0 2 67a qh 1 0 2 67b qh 3 0 2 67k qh 1 0 2 q9 qh 1 0 2 q4 qh 3 0 2 69i
  qh 5 0 2 q9 qh 1 0 2 w lv 2 0 2 w lv 1 0 2 w n6 1 0 3 w lk n6 1 0 2 67o qh 1 0 2 qf qh 1 0 2
  q6 qh 3 0 2 69y qh 5 0 2 qf qh 1 0 3 w lv lc 1 0 3 w lv ld 1 0 3 w lv n6 e 0 3 w lw lc 1 0 3
  w lw ld 1 0 3 w lw n6 e 0 3 w lk lc 1 0 3 w lk ld 4 0 2 67w qh 1 0 2 qx qh 1 0 2 r2 qh 3 0 2
  6ba qh 5 0 2 qx qh 1 0 2 w ld 1 0 2 w lw 2 a 1 w n 0 2 w mr s 0 2 6cy 6cy 1 0 3 6cy 6cy 6cy 2
  0 2 6d1 6d1 1 0 3 6d1 6d1 6d1 5 0 2 x x 2 0 2 w lh 9 0 2 1r 1r 1 0 2 1r x 1 0 2 x 1r e 0 4
  6cy 6cy 6cy 6cy 29 0 2 36 37 2g 0 3 2p 1b 2r 1 0 3 2p 1b 37 2 0 2 4w 2r 2 0 3 2r 1b 33 1 0 3
  2r 1b 39 3 0 2 4w 2u 3 2 1 2w 4 1 1 2x 2 1 1 30 4 0 2 32 33 6 1 1 36 4 0 2 37 31 1 0 3 38 2t
  30 1 0 2 38 31 d 1 1 2t c 0 3 2u 2p 3c 2 1 1 qb 8 1 1 2s b 0 3 1d 6dg 1j 1 0 3 1d 6dg 1l 1 0
  4 1d 6dg 1d 1c 1 0 3 1d 6dg 1f 1 0 3 1e 6dg 1f 1 0 3 1d 6dg 1h 1 0 3 1e 6dg 1h 1 0 3 1f 6dg
  1h 1 0 3 1g 6dg 1h 1 0 3 1d 6dg 1i 1 0 3 1h 6dg 1i 1 0 3 1d 6dg 1k 1 0 3 1f 6dg 1k 1 0 3 1h
  6dg 1k 1 0 3 1j 6dg 1k 1 0 2 1d 6dg 2 0 2 2x 2x 1 0 3 2x 2x 2x 1 0 2 2x 3a 2 0 2 3a 2x 1 0 3
  3a 2x 2x 1 0 4 3a 2x 2x 2x 1 0 2 2x 3c 2 0 2 3c 2x 1 0 3 3c 2x 2x 6 0 2 2x 2x 1 0 3 2x 2x 2x
  1 0 2 2x 3a 2 0 2 3a 2x 1 0 3 3a 2x 2x 1 0 4 3a 2x 2x 2x 1 0 2 2x 3c 2 0 2 3c 2x 1 0 3 3c 2x
  2x e 0 3 1c 6dg 1f 4j 0 2 6qz 6qz 1 0 3 6qz 6qz 6qz 2 0 2 6r2 6r2 1 0 3 6r2 6r2 6r2 ft 0 2 1d
  1c 1 0 2 1d 1d 1 0 2 1d 1e 1 0 2 1d 1f 1 0 2 1d 1g 1 0 2 1d 1h 1 0 2 1d 1i 1 0 2 1d 1j 1 0 2
  1d 1k 1 0 2 1d 1l 1 0 2 1e 1c 1 0 3 14 1d 15 1 0 3 14 1e 15 1 0 3 14 1f 15 1 0 3 14 1g 15 1 0
  3 14 1h 15 1 0 3 14 1i 15 1 0 3 14 1j 15 1 0 3 14 1k 15 1 0 3 14 1l 15 1 0 4 14 1d 1c 15 1 0
  4 14 1d 1d 15 1 0 4 14 1d 1e 15 1 0 4 14 1d 1f 15 1 0 4 14 1d 1g 15 1 0 4 14 1d 1h 15 1 0 4
  14 1d 1i 15 1 0 4 14 1d 1j 15 1 0 4 14 1d 1k 15 1 0 4 14 1d 1l 15 1 0 4 14 1e 1c 15 l 0 3 14
  2p 15 1 0 3 14 2q 15 1 0 3 14 2r 15 1 0 3 14 2s 15 1 0 3 14 2t 15 1 0 3 14 2u 15 1 0 3 14 2v
  15 1 0 3 14 2w 15 1 0 3 14 2x 15 1 0 3 14 2y 15 1 0 3 14 2z 15 1 0 3 14 30 15 1 0 3 14 31 15
  1 0 3 14 32 15 1 0 3 14 33 15 1 0 3 14 34 15 1 0 3 14 35 15 1 0 3 14 36 15 1 0 3 14 37 15 1 0
  3 14 38 15 1 0 3 14 39 15 1 0 3 14 3a 15 1 0 3 14 3b 15 1 0 3 14 3c 15 1 0 3 14 3d 15 1 0 3
  14 3e 15 11z 0 4 6qz 6qz 6qz 6qz 2w 0 3 1m 1m 1p 1 0 2 1p 1p 1 0 3 1p 1p 1p 2u 0 2 8gt mw 14v
  0 2 w 9ll 1 0 2 w 9lm 3 0 2 9l4 9l6 2o 0 2 9mb 9mw 75 0 3 14 3cw 15 1 0 3 14 3cy 15 1 0 3 14
  3cz 15 1 0 3 14 3d1 15 1 0 3 14 3d2 15 1 0 3 14 3d3 15 1 0 3 14 3d5 15 1 0 3 14 3d7 15 1 0 3
  14 3d8 15 1 0 3 14 3da 15 1 0 3 14 3db 15 1 0 3 14 3dc 15 1 0 3 14 3dd 15 1 0 3 14 3de 15 1 0
  3 14 xz4 15 1 0 3 14 yvs 15 1 0 3 14 zc4 15 1 0 3 14 108s 15 1 0 3 14 10p4 15 1 0 3 14 115g
  15 1 0 3 14 1224 15 1 0 3 14 12ys 15 1 0 3 14 13f4 15 1 0 3 14 14bs 15 1 0 3 14 14s4 15 1 0 3
  14 158g 15 1 0 3 14 15os 15 1 0 3 14 1654 15 1 0 3 14 13p8 15 1 0 4 14 1350 13ic 15 1 0 4 14
  1350 16f8 15 2 0 3 14 feo 15 1 0 3 14 fik 15 1 0 3 14 fex 15 1 0 3 14 h5n 15 1 0 3 14 fis 15
  1 0 3 14 g31 15 1 0 3 14 fer 15 1 0 3 14 g2z 15 1 0 3 14 fh9 15 1 0 3 14 gg1 15 1 0 3 14 kco
  15 1 0 3 14 m7f 15 1 0 3 14 ldg 15 1 0 3 14 kdk 15 1 0 3 14 ssx 15 1 0 3 14 h7j 15 1 0 3 14
  k4l 15 1 0 3 14 kkq 15 1 0 3 14 kcp 15 1 0 3 14 ny6 15 1 0 3 14 glp 15 1 0 3 14 mm1 15 1 0 3
  14 rs1 15 1 0 3 14 nz1 15 1 0 3 14 gc4 15 1 0 3 14 fkz 15 1 0 3 14 gos 15 1 0 3 14 i1y 15 1 0
  3 14 nhf 15 1 0 3 14 flt 15 1 0 3 14 rt3 15 1 0 3 14 ggk 15 1 0 3 14 nzh 15 1 0 3 14 fm9 15 1
  0 3 14 pnu 15 1 0 3 14 po3 15 d 0 3 34 38 2t 1 0 2 1e 1d 1 0 2 1e 1e 1 0 2 1e 1f 1 0 2 1e 1g
  1 0 2 1e 1h 1 0 2 1e 1i 1 0 2 1e 1j 1 0 2 1e 1k 1 0 2 1e 1l 1 0 2 1f 1c 1 0 2 1f 1d 1 0 2 1f
  1e 1 0 2 1f 1f 1 0 2 1f 1g 1 0 2 1f 1h t 0 2 14c8 y5c 1 0 2 13p8 13dk 1g 0 2 1f 1i 1 0 2 1f
  1j 1 0 2 1f 1k 1 0 2 1f 1l 1 0 2 1g 1c 1 0 2 1g 1d 1 0 2 1g 1e 1 0 2 1g 1f 1 0 2 1g 1g 1 0 2
  1g 1h 1 0 2 1g 1i 1 0 2 1g 1j 1 0 2 1g 1k 1 0 2 1g 1l 1 0 2 1h 1c 1 0 2 1d kco 1 0 2 1e kco 1
  0 2 1f kco 1 0 2 1g kco 1 0 2 1h kco 1 0 2 1i kco 1 0 2 1j kco 1 0 2 1k kco 1 0 2 1l kco 1 0
  3 1d 1c kco 1 0 3 1d 1d kco 1 0 3 1d 1e kco 1 0 2 2w 2v 1 0 3 2t 36 2v 1 0 2 2t 3a 1 0 3 30
  38 2s 1c 0 2 fl0 gp8 1 0 4 9lu 9n5 9oc 9mw 1 0 4 9lu 9nv 9n9 9lt 1 0 4 9lu 9o3 9ne 9lu 1 0 3
  9lu 9oc 9nv 1 0 4 9lw 9mz 9o3 9m8 1 0 3 9lw 9o3 9mp 1 0 3 9ly 9m1 9o3 1 0 5 9m0 9mh 9m7 9oc
  9mx 1 0 4 9m0 9oc 9m3 9oc 1 0 3 9m2 9o3 9mh 1 0 3 9m2 9oc 9nk 1 0 3 9m3 9lw 9nu 1 0 4 9m3 9nt
  9mr 9mw 1 0 4 9m3 9nx 9nu 9oc 1 0 3 9m4 9nx 9o3 1 0 3 9m4 9o3 9ni 1 0 2 9m6 9m4 1 0 3 9m6 9mz
  9oc 1 0 4 9m5 9np 9nu 9oc 1 0 4 9m6 9nv 9mo 9oc 1 0 2 9m5 9nx 1 0 5 9m5 9nx 9m8 9nt 9nk 1 0 6
  9m5 9nx 9nl 9oc 9mw 9nv 1 0 5 9m5 9nx 9nz 9mr 9mw 1 0 3 9m8 9nt 9nk 1 0 5 9m8 9nt 9nk 9mw 9o3
  1 0 5 9m7 9nv 9mk 9lw 9nx 1 0 4 9m7 9nx 9oc 9n1 1 0 3 9m9 9oc 9mh 1 0 3 9mb 9nv 9my 1 0 3 9mb
  9oc 9nh 1 0 4 9md 9lw 9m7 9nv 1 0 5 9md 9o3 9mp 9oc 9nk 1 0 4 9mf 9nu 9o3 9m8 1 0 3 9mj 9o3
  9mp 1 0 3 9mj 9o3 9mw 1 0 3 9mo 9oc 9mh 1 0 2 9mv 9mf 1 0 2 9mx 9nv 1 0 2 9mw 9o3 1 0 2 9my
  9n2 1 0 3 9n2 9mr 9mw 1 0 3 9n3 9lw 9ms 1 0 5 9n5 9oc 9mj 9o3 9mw 1 0 3 9n5 9oc 9ms 1 0 4 9n4
  9oc 9nw 9nv 1 0 5 9n8 9lu 9mh 9mw 9nv 1 0 3 9n8 9m7 9nv 1 0 2 9n8 9mb 1 0 2 9n7 9nv 1 0 5 9n9
  9lt 9nt 9mr 9mx 1 0 4 9n9 9lv 9oc 9mw 1 0 5 9na 9mr 9mf 9lz 9nv 1 0 3 9n9 9nt 9o3 1 0 5 9nc
  9m7 9mn 9oc 9nv 1 0 2 9ne 9ml 1 0 3 9ne 9mz 9n6 1 0 3 9nc 9nv 9ms 1 0 3 9ne 9o3 9mh 1 0 3 9ne
  9oc 9mg 1 0 3 9nd 9oc 9mn 1 0 4 9nh 9lw 9o3 9mw 1 0 3 9ng 9nv 9mw 1 0 2 9nf 9o3 1 0 3 9nh 9o3
  9mx 1 0 3 9nf 9oc 9nv 1 0 3 9nf 9oc 9o3 1 0 4 9ni 9lw 9m7 9nx 1 0 3 9ni 9lw 9nv 1 0 3 9ni 9mr
  9n3 1 0 3 9ni 9nv 9m7 1 0 5 9ni 9o3 9mf 9nr 9o3 1 0 4 9nj 9m7 9nx 9o3 1 0 2 9nj 9nu 1 0 5 9nj
  9nu 9n4 9oc 9nv 1 0 2 9nl 9m4 1 0 4 9nl 9m4 9mw 9o3 1 0 4 9nl 9oc 9mw 9nv 1 0 3 9no 9oc 9mx 1
  0 3 9no 9oc 9nv 1 0 3 9nq 9lu 9o3 1 0 4 9nu 9mr 9mw 9nv 1 0 2 9nu 9nt 1 0 3 9nv 9n8 9oc 1 0 4
  9nv 9oc 9na 9nv 1 0 2 9nw 9nk 1 0 5 9nw 9o3 9mw 9ma 9o3 1 0 3 9nz 9mr 9mw 1 0 2 1c m9l 1 0 2
  1d m9l 1 0 2 1e m9l 1 0 2 1f m9l 1 0 2 1g m9l 1 0 2 1h m9l 1 0 2 1i m9l 1 0 2 1j m9l 1 0 2 1k
  m9l 1 0 2 1l m9l 1 0 3 1d 1c m9l 1 0 3 1d 1d m9l 1 0 3 1d 1e m9l 1 0 3 1d 1f m9l 1 0 3 1d 1g
  m9l 1 0 3 1d 1h m9l 1 0 3 1d 1i m9l 1 0 3 1d 1j m9l 1 0 3 1d 1k m9l 1 0 3 1d 1l m9l 1 0 3 1e
  1c m9l 1 0 3 1e 1d m9l 1 0 3 1e 1e m9l 1 0 3 1e 1f m9l 1 0 3 1e 1g m9l 1 0 3 2w 34 2p 1 0 2
  2s 2p 1 0 2 2p 39 1 0 3 2q 2p 36 1 0 2 33 3a 1 0 2 34 2r 1 0 2 2s 31 1 0 3 2s 31 1e 1 0 3 2s
  31 1f 1 0 2 2x 39 1 0 2 inn jdc 1 0 2 k6l gp8 1 0 2 hlz l7n 1 0 2 k5q lh7 1 0 4 kkq irz fmi
  ny6 1 0 2 34 2p 1 0 2 32 2p 1 0 2 qk 2p 1 0 2 31 2p 1 0 2 2z 2p 1 0 2 2z 2q 1 0 2 31 2q 1 0 2
  2v 2q 1 0 3 2r 2p 30 1 0 4 2z 2r 2p 30 1 0 2 34 2u 1 0 2 32 2u 1 0 2 qk 2u 1 0 2 qk 2v 1 0 2
  31 2v 1 0 2 2z 2v 1 0 2 2w 3e 1 0 3 2z 2w 3e 1 0 3 31 2w 3e 1 0 3 2v 2w 3e 1 0 3 38 2w 3e 1 0
  2 qk 30 1 0 2 31 30 1 0 2 2s 30 1 0 2 2z 30 1 0 2 2u 31 1 0 2 32 31 1 0 2 qk 31 1 0 2 31 31 1
  0 2 2r 31 1 0 2 2z 31 1 0 3 31 31 1e 1 0 3 2r 31 1e 1 0 2 31 1e 1 0 3 2z 31 1e 1 0 3 31 31 1f
  1 0 3 2r 31 1f 1 0 2 31 1f 1 0 3 2z 31 1f 1 0 3 31 6qd 37 1 0 4 31 6qd 37 1e 1 0 2 34 2p 1 0
  3 2z 34 2p 1 0 3 31 34 2p 1 0 3 2v 34 2p 1 0 3 36 2p 2s 1 0 5 36 2p 2s 6qd 37 1 0 6 36 2p 2s
  6qd 37 1e 1 0 2 34 37 1 0 2 32 37 1 0 2 qk 37 1 0 2 31 37 1 0 2 34 3a 1 0 2 32 3a 1 0 2 qk 3a
  1 0 2 31 3a 1 0 2 2z 3a 1 0 2 31 3a 1 0 2 34 3b 1 0 2 32 3b 1 0 2 qk 3b 1 0 2 31 3b 1 0 2 2z
  3b 1 0 2 31 3b 1 0 2 2z qx 1 0 2 31 qx 2 0 2 2q 35 1 0 2 2r 2r 1 0 2 2r 2s 1 0 4 2r 6qd 2z 2v
  2 0 2 2s 2q 1 0 2 2v 3d 1 0 2 2w 2p 1 0 2 2w 34 1 0 2 2x 32 1 0 2 2z 2z 1 0 2 2z 31 1 0 2 2z
  38 1 0 2 30 31 1 0 2 30 32 1 0 3 30 33 2v 1 0 2 30 3c 1 0 2 31 2q 1 0 3 31 2x 30 1 0 3 31 33
  30 1 0 2 34 2w 2 0 3 34 34 31 1 0 2 34 36 1 0 2 37 36 1 0 2 37 3a 1 0 2 3b 2q 1 0 3 3a 6qd 31
  1 0 3 2p 6qd 31 1 0 2 1d k4l 1 0 2 1e k4l 1 0 2 1f k4l 1 0 2 1g k4l 1 0 2 1h k4l 1 0 2 1i k4l
  1 0 2 1j k4l 1 0 2 1k k4l 1 0 2 1l k4l 1 0 3 1d 1c k4l 1 0 3 1d 1d k4l 1 0 3 1d 1e k4l 1 0 3
  1d 1f k4l 1 0 3 1d 1g k4l 1 0 3 1d 1h k4l 1 0 3 1d 1i k4l 1 0 3 1d 1j k4l 1 0 3 1d 1k k4l 1 0
  3 1d 1l k4l 1 0 3 1e 1c k4l 1 0 3 1e 1d k4l 1 0 3 1e 1e k4l 1 0 3 1e 1f k4l 1 0 3 1e 1g k4l 1
  0 3 1e 1h k4l 1 0 3 1e 1i k4l 1 0 3 1e 1j k4l 1 0 3 1e 1k k4l 1 0 3 1e 1l k4l 1 0 3 1f 1c k4l
  1 0 3 1f 1d k4l 1 0 3 2v 2p 30 12x4 1 1 vj0 9i 1 1 prt 4j 0 2 2u 2u 1 0 2 2u 2x 1 0 2 2u 30 1
  0 3 2u 2u 2x 1 0 3 2u 2u 30 1 1 2 37 38 e 0 2 12s 12u 1 0 2 12s 12d 1 0 2 12s 12j 1 0 2 132
  12u 1 0 2 12s 12l 6 0 2 15l 14k 2 0 2 16a 14n b 0 2 161 14x 1 0 2 161 14y 1 0 3 161 14s 14x 1
  0 3 161 14s 14y 1 0 2 15c 14n 1 0 2 15c 14o 1 0 2 15c 14s 1 0 2 15d 14s 1 0 2 15e 14s 1 0 2
  15f 14s 1 0 2 15g 14s 1 0 2 15h 14s 1 0 2 15i 14s 2 0 2 15k 14s 1 0 2 15l 14s 1 0 2 15m 14s 1
  0 2 15n 14s 1 0 2 15o 14s 2 0 2 15q 14s 2 0 2 15s 14s 1 0 2 15t 14s 2 0 2 15v 14s 1 0 2 15w
  14s 2 0 2 15y 14s 1 0 2 15z 14s 1 0 2 160 14s 1 0 2 161 14s 1 0 2 162 14s 1 0 2 15h 14p 1 0 2
  15d 14v 1 0 2 15n 14v 1 0 2 15w 14v 1 0 2 15c 15o 1 1 1 19t 2 3 1 1a3 4 3 1 1a6 4 3 1 1a8 4 3
  1 1a2 4 3 1 1a7 4 3 1 1a1 4 3 1 1b8 4 3 1 1ba 4 3 1 1ac 4 3 1 1ab 4 3 1 1ae 4 3 1 1af 4 1 1
  1al 6 1 1 1ag 2 1 1 1aw 2 1 1 1ap 2 3 1 1bd 4 3 1 1bj 4 3 1 1bn 4 3 1 1bl 4 1 1 1bu 2 3 1 1bv
  4 1 1 1c0 2 3 1 1c1 4 3 1 1by 4 1 1 1ci 2 1 1 1cj z 3 1 1bh 4 1 1 1c7 6 0 2 1c7 19w 1 1 1 1cb
  2 1 1 1c5 2 1 1 1c9 2 3 1 1cg 4 1 1 18p 2 1 2 17q 17r 2 1 2 17q 1cl 2 1 2 17q 18o 2 1 2 17q
  1c7 2 1 2 17q 1c6 2 1 2 17q 1c8 2 2 2 17q 1cg 3 2 2 17q 18p 3 3 1 1cc 4 0 2 17q 17w 1 0 2 17q
  17x 1 0 2 17q 18l 1 0 2 17q 18p 1 0 2 17q 18q 1 0 2 17s 17w 1 0 2 17s 17x 1 0 2 17s 17y 1 0 2
  17s 18l 1 0 2 17s 18p 1 0 2 17s 18q 1 0 2 17u 17w 1 0 2 17u 17x 1 0 2 17u 17y 1 0 2 17u 18l 1
  0 2 17u 18p 1 0 2 17u 18q 1 0 2 17v 17w 1 0 2 17v 18l 1 0 2 17v 18p 1 0 2 17v 18q 1 0 2 17w
  17x 1 0 2 17w 18l 1 0 2 17x 17w 1 0 2 17x 18l 1 0 2 17y 17w 1 0 2 17y 17x 1 0 2 17y 18l 1 0 2
  183 17w 1 0 2 183 17x 1 0 2 183 17y 1 0 2 183 18l 1 0 2 185 17x 1 0 2 185 18l 1 0 2 186 17w 1
  0 2 186 17x 1 0 2 186 17y 1 0 2 186 18l 1 0 2 187 17x 1 0 2 187 18l 1 0 2 188 18l 1 0 2 189
  17w 1 0 2 189 18l 1 0 2 18a 17w 1 0 2 18a 18l 1 0 2 18h 17w 1 0 2 18h 17x 1 0 2 18h 17y 1 0 2
  18h 18l 1 0 2 18h 18p 1 0 2 18h 18q 1 0 2 18i 17x 1 0 2 18i 18l 1 0 2 18i 18p 1 0 2 18i 18q 1
  0 2 18j 17r 1 0 2 18j 17w 1 0 2 18j 17x 1 0 2 18j 17y 1 0 2 18j 18k 1 0 2 18j 18l 1 0 2 18j
  18p 1 0 2 18j 18q 1 0 2 18k 17w 1 0 2 18k 17x 1 0 2 18k 17y 1 0 2 18k 18l 1 0 2 18k 18p 1 0 2
  18k 18q 1 0 2 18l 17w 1 0 2 18l 17x 1 0 2 18l 17y 1 0 2 18l 18l 1 0 2 18l 18p 1 0 2 18l 18q 1
  0 2 18m 17w 1 0 2 18m 17x 1 0 2 18m 17y 1 0 2 18m 18l 1 0 2 18m 18p 1 0 2 18m 18q 1 0 2 18n
  17w 1 0 2 18n 18l 1 0 2 18n 18p 1 0 2 18n 18q 1 0 2 18q 17w 1 0 2 18q 17x 1 0 2 18q 17y 1 0 2
  18q 18l 1 0 2 18q 18p 1 0 2 18q 18q 1 0 2 180 19s 1 0 2 181 19s 1 0 2 18p 19s 1 0 3 w 18s 18x
  1 0 3 w 18t 18x 1 0 3 w 18u 18x 1 0 3 w 18v 18x 1 0 3 w 18w 18x 1 0 3 w 18x 19s 1 0 2 17q 181
  1 0 2 17q 182 1 0 2 17q 18l 1 0 2 17q 18m 1 0 2 17q 18p 1 0 2 17q 18q 1 0 2 17s 181 1 0 2 17s
  182 1 0 2 17s 18l 1 0 2 17s 18m 1 0 2 17s 18p 1 0 2 17s 18q 1 0 2 17u 181 1 0 2 17u 182 1 0 2
  17u 18l 1 0 2 17u 18m 1 0 2 17u 18p 1 0 2 17u 18q 1 0 2 17v 181 1 0 2 17v 182 1 0 2 17v 18l 1
  0 2 17v 18m 1 0 2 17v 18p 1 0 2 17v 18q 1 0 2 18h 18p 1 0 2 18h 18q 1 0 2 18i 18p 1 0 2 18i
  18q 1 0 2 18j 17r 1 0 2 18j 18k 1 0 2 18j 18l 1 0 2 18j 18p 1 0 2 18j 18q 1 0 2 18k 18l 1 0 2
  18k 18p 1 0 2 18k 18q 1 0 2 18l 17r 1 0 2 18l 18l 1 0 2 18m 181 1 0 2 18m 182 1 0 2 18m 18l 1
  0 2 18m 18m 1 0 2 18m 18p 1 0 2 18m 18q 1 0 2 18p 19s 1 0 2 18q 181 1 0 2 18q 182 1 0 2 18q
  18l 1 0 2 18q 18m 1 0 2 18q 18p 1 0 2 18q 18q 1 0 2 17q 17w 1 0 2 17q 17x 1 0 2 17q 17y 1 0 2
  17q 18l 1 0 2 17q 18n 1 0 2 17s 17w 1 0 2 17s 17x 1 0 2 17s 17y 1 0 2 17s 18l 1 0 2 17s 18n 1
  0 2 17u 17w 1 0 2 17u 17x 1 0 2 17u 17y 1 0 2 17u 18l 1 0 2 17u 18n 1 0 2 17v 18l 1 0 2 17w
  17x 1 0 2 17w 18l 1 0 2 17x 17w 1 0 2 17x 18l 1 0 2 17y 17w 1 0 2 17y 18l 1 0 2 183 17w 1 0 2
  183 17x 1 0 2 183 17y 1 0 2 183 18l 1 0 2 185 17x 1 0 2 185 17y 1 0 2 185 18l 1 0 2 186 17w 1
  0 2 186 17x 1 0 2 186 17y 1 0 2 186 18l 1 0 2 187 17x 1 0 2 188 18l 1 0 2 189 17w 1 0 2 189
  18l 1 0 2 18a 17w 1 0 2 18a 18l 1 0 2 18h 17w 1 0 2 18h 17x 1 0 2 18h 17y 1 0 2 18h 18l 1 0 2
  18i 17x 1 0 2 18i 18l 1 0 2 18j 17w 1 0 2 18j 17x 1 0 2 18j 17y 1 0 2 18j 18k 1 0 2 18j 18l 1
  0 2 18k 17w 1 0 2 18k 17x 1 0 2 18k 17y 1 0 2 18k 18l 1 0 2 18k 18n 1 0 2 18l 17w 1 0 2 18l
  17x 1 0 2 18l 17y 1 0 2 18l 18l 1 0 2 18m 17w 1 0 2 18m 17x 1 0 2 18m 17y 1 0 2 18m 18l 1 0 2
  18m 18n 1 0 2 18n 17w 1 0 2 18n 18l 1 0 2 18n 19s 1 0 2 18q 17w 1 0 2 18q 17x 1 0 2 18q 17y 1
  0 2 18q 18l 1 0 2 18q 18n 1 0 2 17q 18l 1 0 2 17q 18n 1 0 2 17s 18l 1 0 2 17s 18n 1 0 2 17u
  18l 1 0 2 17u 18n 1 0 2 17v 18l 1 0 2 17v 18n 1 0 2 183 18l 1 0 2 183 18n 1 0 2 184 18l 1 0 2
  184 18n 1 0 2 18j 18k 1 0 2 18j 18l 1 0 2 18k 18l 1 0 2 18m 18l 1 0 2 18m 18n 1 0 2 18q 18l 1
  0 2 18q 18n 1 0 3 18g 18u 18x 1 0 3 18g 18v 18x 1 0 3 18g 18w 18x 1 0 2 187 18p 1 0 2 187 18q
  1 0 2 189 18p 1 0 2 189 18q 1 0 2 18a 18p 1 0 2 18a 18q 1 0 2 183 18p 1 0 2 183 18q 1 0 2 184
  18p 1 0 2 184 18q 1 0 2 17x 18p 1 0 2 17x 18q 1 0 2 17w 18p 1 0 2 17w 18q 1 0 2 17y 18p 1 0 2
  17y 18q 1 0 2 185 18p 1 0 2 185 18q 1 0 2 186 18p 1 0 2 186 18q 1 0 2 184 17w 1 0 2 184 17x 1
  0 2 184 17y 1 0 2 184 18l 1 0 2 184 181 1 0 2 183 181 1 0 2 185 181 1 0 2 186 181 1 0 2 187
  18p 1 0 2 187 18q 1 0 2 189 18p 1 0 2 189 18q 1 0 2 18a 18p 1 0 2 18a 18q 1 0 2 183 18p 1 0 2
  183 18q 1 0 2 184 18p 1 0 2 184 18q 1 0 2 17x 18p 1 0 2 17x 18q 1 0 2 17w 18p 1 0 2 17w 18q 1
  0 2 17y 18p 1 0 2 17y 18q 1 0 2 185 18p 1 0 2 185 18q 1 0 2 186 18p 1 0 2 186 18q 1 0 2 184
  17w 1 0 2 184 17x 1 0 2 184 17y 1 0 2 184 18l 1 0 2 184 181 1 0 2 183 181 1 0 2 185 181 1 0 2
  186 181 1 0 2 184 17w 1 0 2 184 17x 1 0 2 184 17y 1 0 2 184 18l 1 0 2 183 18n 1 0 2 184 18n 1
  0 2 187 18l 1 0 2 183 17w 1 0 2 183 17x 1 0 2 183 17y 1 0 2 184 17w 1 0 2 184 17x 1 0 2 184
  17y 1 0 2 187 18l 1 0 2 188 18l 1 1 2 17r 18r k 0 3 17u 17w 18l 1 1 3 17u 17x 17w 2 0 3 17u
  17x 18l 1 0 3 17u 17y 18l 1 0 3 17u 18l 17w 1 0 3 17u 18l 17x 1 0 3 17u 18l 17y 1 1 3 17w 18l
  17x 2 0 3 17x 18l 18q 1 0 3 17x 18l 18p 1 0 3 183 17x 17w 1 0 3 183 17w 17x 1 0 3 183 17w 18p
  1 1 3 183 18l 17x 2 0 3 183 18l 17w 1 1 3 183 18l 18l 2 1 3 185 17x 17x 2 0 3 185 18l 18l 1 1
  3 184 17x 18l 2 0 3 184 17w 18q 1 1 3 184 18l 17y 2 1 3 184 18l 18l 2 0 3 186 17x 18p 1 1 3
  186 17y 18l 2 1 3 187 18l 17x 2 0 3 187 18l 18l 1 0 3 187 18l 18q 1 0 3 189 17w 18l 1 1 3 189
  18l 18l 2 0 3 189 18l 18p 1 0 3 18a 18l 18l 1 0 3 18a 18l 18q 1 0 3 18a 18l 18p 1 1 3 18h 17y
  18l 2 0 3 18i 18l 17x 1 0 3 18i 18l 18l 1 0 3 18k 17x 18l 1 0 3 18k 17x 18q 1 0 3 18k 17x 18p
  1 1 3 18k 17w 17w 2 1 3 18k 17y 18l 2 1 3 18k 18l 17x 2 0 3 18l 17x 17w 1 0 3 18l 17x 18l 1 0
  3 18l 17x 18q 1 0 3 18l 17w 17x 1 0 3 18l 17w 18l 1 0 3 18l 17y 17w 1 0 3 18l 17y 18l 3 0 3
  18l 17w 17y 1 0 3 18n 18l 17w 1 0 3 18n 18l 18l 1 0 3 18m 17x 18l 1 0 3 18m 17x 18p 1 1 3 18m
  17w 18l 2 0 3 18m 17w 18p 1 0 3 18m 18l 18q 1 0 3 18m 18l 18p 1 1 3 18q 18l 18l 2 0 3 17s 17y
  18q 1 0 3 17u 17w 18q 1 0 3 17u 17w 18p 1 0 3 17u 17y 18q 1 0 3 17u 17y 18p 1 0 3 17u 18l 18q
  1 0 3 17u 18l 18p 1 0 3 17w 18l 18q 1 0 3 17w 17x 18p 1 0 3 17w 18l 18p 1 0 3 183 17y 18p 1 0
  3 185 17x 18q 1 0 3 184 17x 18q 1 0 3 186 17x 18q 1 0 3 18k 17w 18q 1 0 3 18k 18l 18q 1 0 3
  18q 17x 18q 1 0 3 18q 17w 18q 1 0 3 18q 18l 18q 1 0 3 18l 18l 18q 1 0 3 18i 18l 18q 1 0 3 18m
  17x 18q 1 0 3 18i 18l 17x 1 0 3 18k 17x 18l 1 0 3 189 18l 18q 1 0 3 18j 18l 18q 1 0 3 18m 17w
  17x 1 0 3 18l 17y 18q 1 0 3 18k 17w 18l 1 0 3 18j 18l 18l 1 0 3 18k 17w 18l 1 0 3 18m 17w 17x
  1 0 3 17w 17x 18q 1 0 3 17x 17w 18q 1 0 3 18l 17w 18q 1 0 3 18h 18l 18q 1 0 3 17s 17x 18q 1 0
  3 18j 18l 18l 1 0 3 189 17w 18l 1 0 3 185 18l 18l 1 0 3 183 17y 18q 1 0 3 18m 17w 18q 15 0 3
  185 18k 1ci 1 0 3 18i 18k 1ci 1 0 4 17r 18k 18k 18n 1 0 4 17r 18j 17s 181 1 0 4 18l 17x 18l
  17z 1 0 4 185 18k 189 18l 1 0 4 181 183 18o 18k 1 0 4 189 18k 18q 18n 1 0 4 18o 183 18k 18l 1
  0 3 185 18k 18p 1 0 i 185 18k 18p w 17r 18k 18k 18n w 189 18k 18q 18n w 18o 183 18k 18l 1 0 8
  17w 18k w 17w 18k 17r 18k 18n 1 0 4 181 1cc 17r 18k 1j 1 1 2n m 3 2 w lh 4 2 1 2n z 0 2 w 18r
  1 0 2 18g 18r 1 0 2 w 18s 2 0 2 w 18t 2 0 2 w 18u 1 0 2 18g 18u 1 0 2 w 18v 1 0 2 18g 18v 1 0
  2 w 18w 1 0 2 18g 18w 1 0 2 w 18x 1 0 2 18g 18x 1 0 2 w 18y 1 0 2 18g 18y b 2 1 17q 3 1 1 17r
  2 3 1 17s 4 1 1 17t 2 3 1 17u 4 3 1 17v 4 3 1 17w 4 3 1 17x 4 3 1 17y 4 1 1 17z 2 1 1 180 2 1
  1 181 2 1 1 182 2 3 1 183 4 3 1 184 4 3 1 185 4 3 1 186 4 3 1 187 4 3 1 188 4 3 1 189 4 3 1
  18a 4 3 1 18h 4 3 1 18i 4 3 1 18j 4 3 1 18k 4 3 1 18l 4 3 1 18m 4 3 1 18n 4 1 1 18o 2 1 1 18p
  2 3 1 18q 4 1 2 18k 17m 2 1 2 18k 17n 2 1 2 18k 17p 2 1 2 18k 17r 6g 0 2 w lg 15dn 0 2 2jx3
  2jxh 1 0 2 2jx4 2jxh 1 0 3 2jx4 2jxh 2jxq 1 0 3 2jx4 2jxh 2jxr 1 0 3 2jx4 2jxh 2jxs 1 0 3
  2jx4 2jxh 2jxt 1 0 3 2jx4 2jxh 2jxu 2f 0 2 2jzt 2jxh 1 0 2 2jzu 2jxh 1 0 3 2jzt 2jxh 2jxq 1 0
  3 2jzu 2jxh 2jxq 1 0 3 2jzt 2jxh 2jxr 1 0 3 2jzu 2jxh 2jxr 103 1 1 qr 1m 1 1 qr 1m 1 1 qr 1m
  1 1 qr 1m 1 1 qr f 1 1 rh 4zb 0 2 1c 18 1 0 2 1d 18 1 0 2 1e 18 1 0 2 1f 18 1 0 2 1g 18 1 0 2
  1h 18 1 0 2 1i 18 1 0 2 1j 18 1 0 2 1k 18 1 0 2 1l 18 6 0 3 14 2p 15 1 0 3 14 2q 15 1 0 3 14
  2r 15 1 0 3 14 2s 15 1 0 3 14 2t 15 1 0 3 14 2u 15 1 0 3 14 2v 15 1 0 3 14 2w 15 1 0 3 14 2x
  15 1 0 3 14 2y 15 1 0 3 14 2z 15 1 0 3 14 30 15 1 0 3 14 31 15 1 0 3 14 32 15 1 0 3 14 33 15
  1 0 3 14 34 15 1 0 3 14 35 15 1 0 3 14 36 15 1 0 3 14 37 15 1 0 3 14 38 15 1 0 3 14 39 15 1 0
  3 14 3a 15 1 0 3 14 3b 15 1 0 3 14 3c 15 1 0 3 14 3d 15 1 0 3 14 3e 15 1 0 3 9hw 37 9hx 3 0 2
  2r 2s 1 0 2 3b 3e s 0 2 2w 3a 1 0 2 31 3a 1 0 2 37 2s 1 0 2 37 37 1 0 3 34 34 3a 1 0 2 3b 2r
  r 0 2 31 2r 1 0 2 31 2s 1 0 2 31 36 10 0 2 2s 2y 34 0 2 9kr 9jf 1 0 2 9mb 9mb 1r 0 3 9hw kdo
  9hx 1 0 3 9hw fex 9hx 1 0 3 9hw fik 9hx 1 0 3 9hw i2x 9hx 1 0 3 9hw m9l 9hx 1 0 3 9hw jf7 9hx
  1 0 3 9hw nh3 9hx 1 0 3 9hw gd9 9hx 1 0 3 9hw k0n 9hx 1fr1 1 1 gw4 11 1 1 i0u 13 1 1 3035 3 1
  1 isi 48 1 1 ce0 1d 1 1 3b1j 4h 1 1 u17"

end PageAid.Web
