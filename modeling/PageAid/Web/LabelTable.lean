/-!
Tables for the parts of the names of hosts, packed: marks, the directions of writing, and how
letters join.
-/

namespace PageAid.Web

/-- Runs of marks: the distance from the end of the run before, and the number of further
characters. -/
def markText : String := "
  lc 1r 3 0 4 8 2 v 7o 6 7c 18 2 0 2 1 2 1 2 1 20 a 1d k h 0 2u 6 3 5 3 1 2 3 10 0 v q 2k a 1n
  8 a 0 p 3 2 8 2 2 2 4 18 2 1o 8 17 n 2 w 1j 2 2 h 2 6 b 1 u 2 1l 0 2 6 3 1 3 2 a 0 b 1 r 0 3
  2 1l 0 2 4 5 1 3 2 4 0 v 1 4 0 c 2 1l 0 2 7 2 2 2 2 l 1 n 5 2 2 1l 0 2 6 3 1 3 2 6 4 b 1 v 0
  1o 4 4 2 2 3 a 0 15 4 1k 0 2 6 2 2 2 3 8 1 c 1 u 2 1l 0 2 6 2 2 2 3 8 1 c 1 g 0 d 3 1k 1 2 6
  2 2 2 3 a 0 b 1 u 2 1z 0 5 5 2 0 2 7 j 1 1q 0 3 6 d 7 2r 0 3 8 c 6 22 1 s 0 2 0 2 0 5 1 1e 1
  2 0 6 6 2 2 2 1 6 5 2 3 2 3 2 3 2 3 2 3 2 b 2 2 a 0 2t j o 3 5 2 2 2 3 6 4 3 e b 2 0 b 3 jk 2
  qb 3 t 2 u 1 v 1 1v t a 0 4o 1 z 0 3b b 5 b 64 4 1m 9 2 s 3 0 1d 1a 2 b l 4 1c g 13 8 d 2 v c
  1l d 1d j 49 2 2 k 5 0 7 0 3 2 5j 1r k1 w 2db 2 3y 0 2p v ff 5 2y 1 n9x 3 2 9 x 1 29 1 7l 0 4
  0 5 0 o 4 5 0 2c 1 1f h r h e 0 13 7 q c 19 3 1c d 11 0 1w d d 0 9 1 1a 2 1f 0 2 2 3 1 6 1 2
  0 16 4 6 1 6l 7 2 1 fn5 0 le f r2 0 6b 0 46 4 1af 2 2 1 6 3 15 2 5 0 4m 1 fy 3 1u 4 8u 1 26 5
  1z a 1e 3 3f 2 1i e 16 0 3 1 b 3 1a a 8 0 1q 2 11 d h 1 19 0 d 2 1d d 9 3 2 1 2l b 7 0 3 0 4e
  b m 3 1k 1 2 6 3 1 3 2 a 0 b 1 3 6 4 4 1w 8 2 0 3 0 2 3 2 4 2 0 f 1 2b h o 0 2a j 6k 6 3 8 s
  1 2b g 2z c 2u e 75 e 6u 5 2 1 3 3 2 0 2 1 3y 6 3 6 4 0 t 9 15 6 2 3 9 0 a a 1b f 5j 7 5k 7 2
  7 2b l 2 d 3f 5 4 0 2 1 2 6 2 0 1v 4 2 1 2 4 9o 3 a 1 2 0 1d 6 4 4 o 0 44m 0 7 e 8uh h 1xd 4
  1o 6 t5 0 2 1i 8 3 2a 0 c 1 f58 1 3mq 19 3 m f3 4 4 5 9 7 3 6 v 3 45 2 1j0 1i 5 1d 9 0 f 0 n
  4 2 e 11t 6 2 g 3 6 2 1 2 4 2t 0 4h 6 ag 0 1q 3 e5 3 73 1 6s 0 3 0 8 1 6 0 d7 6 32 6"

/-- Steps: a distance, and the direction from there on. It is zero before the first one. -/
def directionText : String := "
  0 9 9 b 5 9 e b 5 8 2 7 3 8 5 5 1 6 1 5 1 6 2 4 a 6 1 8 6 0 q 8 6 0 q 8 4 9 y 8 1 7 4 8 a 7 6
  8 15 0 o 8 1 0 ch 8 2 0 7 8 e 0 2 8 s 0 1 8 h a 35 0 4 8 2 0 3j 8 2 0 3v a 8 0 73 8 5 7 2 a
  19 1 1 a 1 1 1 a 2 1 1 a 2 1 1 a 9 1 1i 8 2 2 1 7 2 2 1 6 1 2 1 8 2 a b 2 1c a l 3 a 7 1 3 2
  2 3 a 1 2 2t a 8 8 1 a 6 2 2 a 2 8 1 a 4 2 2 4 a 2 n a 1 2 u a t 2 2h a b 2 f 1 17 a 9 1 2 8
  4 1 3 a 1 1 o a 4 1 1 a 9 1 1 a 3 1 1 a 7 1 15 a 5 1 2 2 1j a 9 2 16 a 1l 0 1j a 1 0 1 a 1 0
  4 a 8 0 4 a 1 0 3 a f 0 2 a 2 0 t a 1 0 1m a 1 0 4 a 6 0 6 a 1 0 k a 4 0 c 7 2 0 7 7 1 0 2 a
  5 0 1l a 2 0 3 a r 0 k a 2 0 3 a 1 0 b a 2 0 1l a 1 0 4 a 8 0 4 a 3 0 i a 4 0 b 7 8 0 1 a 8 0
  1m a 1 0 2 a 1 0 1 a 6 0 6 a a 0 b a 4 0 s a 1 0 1p a 1 0 c a 3 0 z 8 6 7 1 8 6 a 1 0 3 a 1 0
  1j a 1 0 1 a 3 0 5 a i 0 a a 4 0 i 8 7 0 2 a 1 0 1m a 1 0 f a 9 0 d a 4 0 q a 2 0 1l a 2 0 4
  a 5 0 7 a 1 0 k a 4 0 r a 1 0 20 a 5 0 3 a 6 0 2h a 1 0 2 a b 7 1 0 7 a 8 0 2q a 1 0 2 a 9 0
  b a 8 0 20 a 2 0 r a 1 0 1 a 1 0 1 a 1 8 4 0 1f a e 0 1 a 5 0 1 a 2 0 5 a 1d 0 8 a 1 0 2u a 4
  0 1 a 6 0 1 a 2 0 2 a 2 0 p a 2 0 4 a 3 0 g a 4 0 d a 1 0 2 a 2 0 6 a 1 0 f a 1 0 jj a 3 0 1c
  8 g 0 2o 8 1 0 ii 8 5 0 36 a 3 0 t a 2 0 u a e 0 i a e 0 1j a 7 0 8 a 1 0 2 a b 0 7 7 1 0 1 a
  3 0 g 8 w 0 39 a 2 0 y a 1 0 3a a 3 0 4 a 2 0 9 a 1 0 6 a 7 8 6 0 48 8 y 0 n a 2 0 2 a 3 0 1k
  a 1 0 1 a 9 0 1 a 1 0 2 a 8 0 6 a d 0 1c a 2c 0 1c a 1 0 1 a 4 0 2 a 1 0 5 a 1 0 14 a 9 0 c a
  2 0 w a 4 0 2 a 2 0 1 a 3 0 1k a 1 0 1 a 2 0 3 a 1 0 1 a 3 0 1m a 8 0 2 a 5 0 45 a 3 0 1 a d
  0 1 a 7 0 4 a 1 0 6 a 1 0 3 a 2 0 5i a 1t 0 ej 9 4 8 w 7 5 8 f 6 1 8 22 0 h 7 1c a 1g 8 16 7
  c 8 k 0 1o 8 3s 5 1 7 1 8 82 0 1x 8 q 0 1 8 ly 0 1 8 9f 0 74 8 mo 0 51 8 7 0 3 a 4 0 6 8 7 0
  3j a 1 0 2o a w 8 ed 0 3 8 p 0 9 a 4 0 2 8 1 0 6 8 4 0 2 8 4 0 2g a 4 0 3 8 1 0 2i 8 1 0 5g 8
  1c 0 5hs 8 1s 0 h3k 8 1s 0 8t 8 3 0 2n a 4 8 1 a a 8 3 0 t a 2 0 28 a 2 0 e 8 z 0 2t 8 1 0 3d
  a 1 0 3 a 1 0 4 a 1 0 p a 2 0 1 8 4 a 4 0 8 7 8 0 1g 8 c 0 1w a a 0 i a i 0 d a 1 0 12 a 8 0
  p a b 0 1a a 3 0 1c a 1 0 2 a 4 0 2 a 2 0 13 a 1 0 1v a 6 0 2 a 2 0 2 a b 0 3 a 1 0 8 a 1 0
  1b a 1 0 1f a 1 0 1 a 3 0 2 a 2 0 5 a 2 0 1 a 1 0 16 a 2 0 8 a b 0 2x 8 2 0 3d a 1 0 2 a 1 0
  4 a 3 0 fn2 a 44 2 h 8 gt a 11 8 1a 2 b1 0 75 8 1 0 1q 8 25 0 3 8 1s 0 19 a 3n 0 2o a 1 4 v 0
  3a a a 0 w0 1 7z 8 1 1 69 a f 1 14 a 8 1 4l a 6 1 26 8 7 1 cg 2 10 a c 3 q 1 v a 5 8 1 1 6p 3
  w 1 17 a 2 1 l 2 e 8 16 a 6 1 1c 2 m a b 2 v 1 i a 4 1 3e 0 1 a 1 0 1i a f 0 b 8 k 0 a a 1 0
  2 a 2 0 a a 3 0 1d a 4 0 2 a 2 0 7 a e 0 1c a 3 0 10 a 5 0 1 a 9 0 1p a 1 0 c a 2 0 1g a 9 0
  a a 4 0 2 a 1 0 2n a 3 0 2 a 1 0 1 a 2 0 6 a 1 0 2 a 1r 0 2n a 1 0 3 a d 0 g a 2 0 1l a 2 0 3
  a 1 0 11 a q 0 1n a 7 0 c a 1 0 1 a 1 0 1 a 1 0 e a v 0 1k a 8 0 2 a 3 0 1 a 1 0 n a 1 0 2c a
  6 0 1 a 1 0 4 a 2 0 1 a 2 0 6m a 6 0 4 a 2 0 1 a 2 0 r a 10 0 1f a 8 0 2 a 1 0 1 a 2 0 v 8 w
  0 17 a 1 0 1 a 1 0 2 a 6 0 1 a 1 0 2t a 1 0 1 a 1 0 2 a 4 0 1 a 9 0 73 a 9 0 1 a 2 0 74 a 2 0
  1 a 1 0 4 a 1 0 40 a 8 0 4 a 1 0 w a 6 0 2 a 2 0 14 a 6 0 2 a 4 0 8 a 9 0 1 a 6 0 2 a 3 0 1a
  a d 0 1 a 2 0 5i a 1 0 1 a 3 0 1 a 1 0 5l a e 0 2c a n 0 1 a 7 0 1 a 2 0 1 a 23 0 1d a l 0 1
  a 9 0 1s a 3 0 2 a 1 0 1 a 1 0 9n a 2 0 b a 2 0 1g a 8 0 2 a 1 0 1 a 1 0 n a 2e 0 11 8 8 7 4
  8 u 0 401 a 1 0 6 a p 0 8u6 a c 0 3 a 3 0 1xc a 5 0 1n a 7 0 t4 a 1 0 1r a 4 0 27 8 1 0 1 a c
  0 f59 a 2 0 31d 8 lc a 28 0 ev a 3 0 h a 8 0 2 a 7 0 u a 4 0 1n 8 2h a 3 8 3f 0 1s 8 2o 0 1b4
  a 1j 0 4 a 1e 0 8 a 1 0 e a 1 0 m a v9 0 74 a 74 0 1c a 7 0 af a i 0 18 a 4 0 f 7 cx 0 s a 4
  0 72 a 2 0 6r a 1 0 2 a 1 0 7 a 2 0 5 a 9 0 76 1 5s a 2a 1 y a 7 1 me 2 hr 8 gw 0 t 8 3 0 1p
  8 1l 0 3e 8 2ow 0"

/-- Steps: a distance, and how characters join from there on. It is zero before the first one. -/
def joiningText : String := "
  lc 4 35 0 7m 4 8 0 7a 4 19 0 1 4 1 0 1 4 2 0 1 4 2 0 1 4 9 0 1s 4 b 0 5 3 1 0 1 1 4 3 1 1 1 3
  1 1 1 3 5 1 4 3 d 5 1 3 7 1 1 3 2 4 l 0 e 3 2 4 1 1 3 0 5 3 f 1 i 3 12 1 1 3 2 1 9 3 1 1 1 3
  1 1 1 3 2 1 2 0 1 1 1 4 8 0 1 4 6 0 2 4 2 0 1 4 4 1 2 0 a 3 3 0 2 3 1 0 g 1 1 4 1 3 3 1 5 3 4
  1 1 3 9 1 1 3 1 1 1 3 1 1 1 3 2 1 1 4 t 1 1 3 b 1 3 3 f 1 2 3 4 1 1 3 1 1 2 3 3 1 2 3 6 0 12
  4 b 0 p 3 x 4 9 0 6 5 3 4 1 0 o 4 4 0 1 4 9 0 1 4 3 0 1 4 7 0 g 1 1 3 5 1 2 3 1 1 1 3 a 1 1 3
  1 1 3 4 5 0 2 3 1 0 1 3 4 0 1 1 1 3 1 1 q 5 3 3 1 0 2 3 5 1 1 3 8 4 9 3 a 1 3 0 1 1 1 3 2 1 2
  3 6 1 1 3 f 0 1 4 1l 0 1j 4 1 0 1 4 1 0 4 4 8 0 4 4 1 0 3 4 f 0 2 4 2 0 t 4 1 0 1m 4 1 0 4 4
  6 0 6 4 1 0 k 4 4 0 o 4 5 0 1l 4 2 0 3 4 r 0 k 4 2 0 3 4 1 0 b 4 2 0 1l 4 1 0 4 4 8 0 4 4 3 0
  i 4 4 0 k 4 8 0 1m 4 1 0 2 4 1 0 1 4 6 0 6 4 a 0 b 4 4 0 s 4 1 0 1p 4 1 0 c 4 3 0 1c 4 1 0 3
  4 1 0 1j 4 1 0 1 4 3 0 5 4 i 0 a 4 4 0 r 4 1 0 1m 4 1 0 2 4 1 0 6 4 1 0 5 4 9 0 d 4 4 0 q 4 2
  0 1l 4 2 0 4 4 5 0 7 4 1 0 k 4 4 0 r 4 1 0 20 4 5 0 3 4 6 0 2h 4 1 0 2 4 b 0 8 4 8 0 2q 4 1 0
  2 4 9 0 b 4 8 0 20 4 2 0 r 4 1 0 1 4 1 0 1 4 1 0 1j 4 e 0 1 4 5 0 1 4 2 0 5 4 1d 0 8 4 1 0 2u
  4 4 0 1 4 6 0 1 4 2 0 2 4 2 0 p 4 2 0 4 4 3 0 g 4 4 0 d 4 1 0 2 4 2 0 6 4 1 0 f 4 1 0 jj 4 3
  0 qa 4 3 0 t 4 2 0 u 4 e 0 i 4 e 0 1j 4 7 0 8 4 1 0 2 4 b 0 9 4 3 0 13 3 1 0 2 5 6 0 g 3 2o 0
  5 4 2 3 y 4 1 3 6 0 34 4 3 0 4 4 2 0 9 4 1 0 6 4 7 0 5z 4 2 0 2 4 3 0 1k 4 1 0 1 4 9 0 1 4 1
  0 2 4 8 0 6 4 d 0 1c 4 2c 0 1c 4 1 0 1 4 4 0 2 4 1 0 5 4 1 0 14 4 9 0 c 4 2 0 w 4 4 0 2 4 2 0
  1 4 3 0 1k 4 1 0 1 4 2 0 3 4 1 0 1 4 3 0 1m 4 8 0 2 4 5 0 45 4 3 0 1 4 d 0 1 4 7 0 4 4 1 0 6
  4 1 0 3 4 2 0 5i 4 1t 0 ek 5 3 0 5c 4 1g 0 2cr 4 4 0 3w 4 1 0 2o 4 w 0 fe 4 4 0 2z 4 4 0 n9u
  4 4 0 1 4 a 0 w 4 2 0 28 4 2 0 7k 4 1 0 3 4 1 0 4 4 1 0 p 4 2 0 5 4 4 0 g 3 1e 2 1 0 29 4 a 0
  i 4 i 0 d 4 1 0 12 4 8 0 p 4 b 0 1a 4 3 0 1c 4 1 0 2 4 4 0 2 4 2 0 13 4 1 0 1v 4 6 0 2 4 2 0
  2 4 b 0 3 4 1 0 8 4 1 0 1b 4 1 0 1f 4 1 0 1 4 3 0 2 4 2 0 5 4 2 0 1 4 1 0 16 4 2 0 8 4 b 0 6c
  4 1 0 2 4 1 0 4 4 3 0 fn2 4 44 0 ha 4 11 0 qg 4 3n 0 2o 4 1 0 45 4 a 0 1a9 4 f 0 14 4 8 0 3k
  3 5 1 1 0 1 1 1 0 1 1 2 0 2 2 1 1 5 3 4 2 1 3 5 1 1 3 3 1 1 0 2 1 1 4 6 3 4 1 1 0 40 3 1 1 1
  3 1 1 3 3 3 1 1 3 2 1 1 3 1 1 2 3 1 1 8 0 g 1 4 3 2 0 9d 2 1 3 x 1 1 3 1 4 c 0 1l 4 5 0 8t 4
  2 0 l 1 1 3 2 0 1 3 a 0 16 4 6 0 1c 3 3 1 1 3 h 0 1 4 b 3 3 1 1 0 r 3 4 1 2 3 c 4 4 0 16 3 1
  0 1 3 2 1 3 0 1 3 1 1 2 3 2 1 1 3 2 0 1 3 1 1 2 3 1 0 4 1 1 3 1 2 l 0 x 4 1 0 1i 4 f 0 15 4 1
  0 2 4 2 0 a 4 3 0 1d 4 4 0 2 4 2 0 7 4 e 0 1c 4 3 0 10 4 5 0 1 4 9 0 1p 4 1 0 c 4 2 0 1g 4 9
  0 a 4 4 0 2 4 1 0 2n 4 3 0 2 4 1 0 1 4 2 0 6 4 1 0 2 4 1r 0 2n 4 1 0 3 4 d 0 g 4 2 0 1l 4 2 0
  3 4 1 0 11 4 q 0 1n 4 7 0 c 4 1 0 1 4 1 0 1 4 1 0 e 4 v 0 1k 4 8 0 2 4 3 0 1 4 1 0 n 4 1 0 2c
  4 6 0 1 4 1 0 4 4 2 0 1 4 2 0 6m 4 6 0 4 4 2 0 1 4 2 0 r 4 10 0 1f 4 8 0 2 4 1 0 1 4 2 0 2y 4
  1 0 1 4 1 0 2 4 6 0 1 4 1 0 2t 4 1 0 1 4 1 0 2 4 4 0 1 4 9 0 73 4 9 0 1 4 2 0 74 4 2 0 1 4 1
  0 4 4 1 0 40 4 8 0 4 4 1 0 w 4 a 0 14 4 6 0 2 4 4 0 8 4 9 0 1 4 6 0 2 4 3 0 1a 4 d 0 1 4 2 0
  5i 4 1 0 1 4 3 0 1 4 1 0 5l 4 e 0 1 4 1 0 2a 4 n 0 1 4 7 0 1 4 2 0 1 4 23 0 1d 4 l 0 1 4 9 0
  1s 4 3 0 2 4 1 0 1 4 1 0 9n 4 2 0 b 4 2 0 1g 4 8 0 2 4 1 0 1 4 1 0 n 4 2e 0 428 4 1 0 6 4 p 0
  8u6 4 c 0 3 4 3 0 1xc 4 5 0 1n 4 7 0 t4 4 1 0 1r 4 4 0 29 4 c 0 f59 4 2 0 3mp 4 28 0 ev 4 3 0
  h 4 8 0 2 4 7 0 u 4 4 0 44 4 3 0 1iz 4 1j 0 4 4 1e 0 8 4 1 0 e 4 1 0 m 4 v9 0 74 4 74 0 1c 4
  7 0 af 4 i 0 18 4 4 0 e4 4 4 0 72 4 2 0 6r 4 1 0 2 4 1 0 7 4 2 0 5 4 9 0 cy 4 2a 3 y 4 c 0"

end PageAid.Web
