import Lineage.Text.CodeRanges

/-!
The data of Unicode normalization, version 14: full compatibility decompositions of the characters
that can stand in identifiers, combining classes, and the pairs that compose to one character.
Hangul syllables are left out, they follow a rule.
-/

namespace Lineage.Text.Normal

/-- Decompositions in rising order of the character: how many code points were left out since the
last one, how many code points it decomposes to, and these. -/
def decompositionTable : String :=
    "aa 1 61 a 1 3bc 4 1 6f 5 2 41 300 0 2 41 301 0 2 41 302 0 2 41 303 0 2 41 308 0 2 41 30a 1
    2 43 327 0 2 45 300 0 2 45 301 0 2 45 302 0 2 45 308 0 2 49 300 0 2 49 301 0 2 49 302 0 2
    49 308 1 2 4e 303 0 2 4f 300 0 2 4f 301 0 2 4f 302 0 2 4f 303 0 2 4f 308 2 2 55 300 0 2 55
    301 0 2 55 302 0 2 55 308 0 2 59 301 2 2 61 300 0 2 61 301 0 2 61 302 0 2 61 303 0 2 61
    308 0 2 61 30a 1 2 63 327 0 2 65 300 0 2 65 301 0 2 65 302 0 2 65 308 0 2 69 300 0 2 69
    301 0 2 69 302 0 2 69 308 1 2 6e 303 0 2 6f 300 0 2 6f 301 0 2 6f 302 0 2 6f 303 0 2 6f
    308 2 2 75 300 0 2 75 301 0 2 75 302 0 2 75 308 0 2 79 301 1 2 79 308 0 2 41 304 0 2 61
    304 0 2 41 306 0 2 61 306 0 2 41 328 0 2 61 328 0 2 43 301 0 2 63 301 0 2 43 302 0 2 63
    302 0 2 43 307 0 2 63 307 0 2 43 30c 0 2 63 30c 0 2 44 30c 0 2 64 30c 2 2 45 304 0 2 65
    304 0 2 45 306 0 2 65 306 0 2 45 307 0 2 65 307 0 2 45 328 0 2 65 328 0 2 45 30c 0 2 65
    30c 0 2 47 302 0 2 67 302 0 2 47 306 0 2 67 306 0 2 47 307 0 2 67 307 0 2 47 327 0 2 67
    327 0 2 48 302 0 2 68 302 2 2 49 303 0 2 69 303 0 2 49 304 0 2 69 304 0 2 49 306 0 2 69
    306 0 2 49 328 0 2 69 328 0 2 49 307 1 2 49 4a 0 2 69 6a 0 2 4a 302 0 2 6a 302 0 2 4b 327
    0 2 6b 327 1 2 4c 301 0 2 6c 301 0 2 4c 327 0 2 6c 327 0 2 4c 30c 0 2 6c 30c 0 2 4c b7 0 2
    6c b7 2 2 4e 301 0 2 6e 301 0 2 4e 327 0 2 6e 327 0 2 4e 30c 0 2 6e 30c 0 2 2bc 6e 2 2 4f
    304 0 2 6f 304 0 2 4f 306 0 2 6f 306 0 2 4f 30b 0 2 6f 30b 2 2 52 301 0 2 72 301 0 2 52
    327 0 2 72 327 0 2 52 30c 0 2 72 30c 0 2 53 301 0 2 73 301 0 2 53 302 0 2 73 302 0 2 53
    327 0 2 73 327 0 2 53 30c 0 2 73 30c 0 2 54 327 0 2 74 327 0 2 54 30c 0 2 74 30c 2 2 55
    303 0 2 75 303 0 2 55 304 0 2 75 304 0 2 55 306 0 2 75 306 0 2 55 30a 0 2 75 30a 0 2 55
    30b 0 2 75 30b 0 2 55 328 0 2 75 328 0 2 57 302 0 2 77 302 0 2 59 302 0 2 79 302 0 2 59
    308 0 2 5a 301 0 2 7a 301 0 2 5a 307 0 2 7a 307 0 2 5a 30c 0 2 7a 30c 0 1 73 20 2 4f 31b 0
    2 6f 31b d 2 55 31b 0 2 75 31b 13 3 44 5a 30c 0 3 44 7a 30c 0 3 64 7a 30c 0 2 4c 4a 0 2 4c
    6a 0 2 6c 6a 0 2 4e 4a 0 2 4e 6a 0 2 6e 6a 0 2 41 30c 0 2 61 30c 0 2 49 30c 0 2 69 30c 0 2
    4f 30c 0 2 6f 30c 0 2 55 30c 0 2 75 30c 0 3 55 308 304 0 3 75 308 304 0 3 55 308 301 0 3
    75 308 301 0 3 55 308 30c 0 3 75 308 30c 0 3 55 308 300 0 3 75 308 300 1 3 41 308 304 0 3
    61 308 304 0 3 41 307 304 0 3 61 307 304 0 2 c6 304 0 2 e6 304 2 2 47 30c 0 2 67 30c 0 2
    4b 30c 0 2 6b 30c 0 2 4f 328 0 2 6f 328 0 3 4f 328 304 0 3 6f 328 304 0 2 1b7 30c 0 2 292
    30c 0 2 6a 30c 0 2 44 5a 0 2 44 7a 0 2 64 7a 0 2 47 301 0 2 67 301 2 2 4e 300 0 2 6e 300 0
    3 41 30a 301 0 3 61 30a 301 0 2 c6 301 0 2 e6 301 0 2 d8 301 0 2 f8 301 0 2 41 30f 0 2 61
    30f 0 2 41 311 0 2 61 311 0 2 45 30f 0 2 65 30f 0 2 45 311 0 2 65 311 0 2 49 30f 0 2 69
    30f 0 2 49 311 0 2 69 311 0 2 4f 30f 0 2 6f 30f 0 2 4f 311 0 2 6f 311 0 2 52 30f 0 2 72
    30f 0 2 52 311 0 2 72 311 0 2 55 30f 0 2 75 30f 0 2 55 311 0 2 75 311 0 2 53 326 0 2 73
    326 0 2 54 326 0 2 74 326 2 2 48 30c 0 2 68 30c 6 2 41 307 0 2 61 307 0 2 45 327 0 2 65
    327 0 3 4f 308 304 0 3 6f 308 304 0 3 4f 303 304 0 3 6f 303 304 0 2 4f 307 0 2 6f 307 0 3
    4f 307 304 0 3 6f 307 304 0 2 59 304 0 2 79 304 7c 1 68 0 1 266 0 1 6a 0 1 72 0 1 279 0 1
    27b 0 1 281 0 1 77 0 1 79 27 1 263 0 1 6c 0 1 73 0 1 78 0 1 295 5b 1 300 0 1 301 1 1 313 0
    2 308 301 2f 1 2b9 11 2 391 301 0 1 b7 0 2 395 301 0 2 397 301 0 2 399 301 1 2 39f 301 1 2
    3a5 301 0 2 3a9 301 0 3 3b9 308 301 19 2 399 308 0 2 3a5 308 0 2 3b1 301 0 2 3b5 301 0 2
    3b7 301 0 2 3b9 301 0 3 3c5 308 301 19 2 3b9 308 0 2 3c5 308 0 2 3bf 301 0 2 3c5 301 0 2
    3c9 301 1 1 3b2 0 1 3b8 0 1 3a5 0 2 3a5 301 0 2 3a5 308 0 1 3c6 0 1 3c0 19 1 3ba 0 1 3c1 0
    1 3c2 1 1 398 0 1 3b5 3 1 3a3 6 2 415 300 0 2 415 308 1 2 413 301 3 2 406 308 4 2 41a 301
    0 2 418 300 0 2 423 306 a 2 418 306 1f 2 438 306 16 2 435 300 0 2 435 308 1 2 433 301 3 2
    456 308 4 2 43a 301 0 2 438 300 0 2 443 306 17 2 474 30f 0 2 475 30f 49 2 416 306 0 2 436
    306 d 2 410 306 0 2 430 306 0 2 410 308 0 2 430 308 2 2 415 306 0 2 435 306 2 2 4d8 308 0
    2 4d9 308 0 2 416 308 0 2 436 308 0 2 417 308 0 2 437 308 2 2 418 304 0 2 438 304 0 2 418
    308 0 2 438 308 0 2 41e 308 0 2 43e 308 2 2 4e8 308 0 2 4e9 308 0 2 42d 308 0 2 44d 308 0
    2 423 304 0 2 443 304 0 2 423 308 0 2 443 308 0 2 423 30b 0 2 443 30b 0 2 427 308 0 2 447
    308 2 2 42b 308 0 2 44b 308 8d 2 565 582 9a 2 627 653 0 2 627 654 0 2 648 654 0 2 627 655
    0 2 64a 654 4e 2 627 674 0 2 648 674 0 2 6c7 674 0 2 64a 674 47 2 6d5 654 1 2 6c1 654 10 2
    6d2 654 255 2 928 93c 7 2 930 93c 2 2 933 93c 23 2 915 93c 0 2 916 93c 0 2 917 93c 0 2 91c
    93c 0 2 921 93c 0 2 922 93c 0 2 92b 93c 0 2 92f 93c 6b 2 9c7 9be 0 2 9c7 9d7 f 2 9a1 9bc 0
    2 9a2 9bc 1 2 9af 9bc 53 2 a32 a3c 2 2 a38 a3c 22 2 a16 a3c 0 2 a17 a3c 0 2 a1c a3c 2 2
    a2b a3c e9 2 b47 b56 2 2 b47 b3e 0 2 b47 b57 f 2 b21 b3c 0 2 b22 b3c 36 2 b92 bd7 35 2 bc6
    bbe 0 2 bc7 bbe 0 2 bc6 bd7 7b 2 c46 c56 77 2 cbf cd5 6 2 cc6 cd5 0 2 cc6 cd6 1 2 cc6 cc2
    0 3 cc6 cc2 cd5 7e 2 d46 d3e 0 2 d47 d3e 0 2 d46 d57 8d 2 dd9 dca 1 2 dd9 dcf 0 3 dd9 dcf
    dca 0 2 dd9 ddf 54 2 e4d e32 7f 2 ecd eb2 28 2 eab e99 0 2 eab ea1 65 2 f42 fb7 9 2 f4c
    fb7 4 2 f51 fb7 4 2 f56 fb7 4 2 f5b fb7 c 2 f40 fb5 9 2 f71 f72 1 2 f71 f74 0 2 fb2 f80 0
    3 fb2 f71 f80 0 2 fb3 f80 0 3 fb3 f71 f80 7 2 f71 f80 11 2 f92 fb7 9 2 f9c fb7 4 2 fa1 fb7
    4 2 fa6 fb7 4 2 fab fb7 c 2 f90 fb5 6c 2 1025 102e d5 1 10dc a09 2 1b05 1b35 1 2 1b07 1b35
    1 2 1b09 1b35 1 2 1b0b 1b35 1 2 1b0d 1b35 3 2 1b11 1b35 28 2 1b3a 1b35 1 2 1b3c 1b35 2 2
    1b3e 1b35 0 2 1b3f 1b35 1 2 1b42 1b35 1e8 1 41 0 1 c6 0 1 42 1 1 44 0 1 45 0 1 18e 0 1 47
    0 1 48 0 1 49 0 1 4a 0 1 4b 0 1 4c 0 1 4d 0 1 4e 1 1 4f 0 1 222 0 1 50 0 1 52 0 1 54 0 1
    55 0 1 57 0 1 61 0 1 250 0 1 251 0 1 1d02 0 1 62 0 1 64 0 1 65 0 1 259 0 1 25b 0 1 25c 0 1
    67 1 1 6b 0 1 6d 0 1 14b 0 1 6f 0 1 254 0 1 1d16 0 1 1d17 0 1 70 0 1 74 0 1 75 0 1 1d1d 0
    1 26f 0 1 76 0 1 1d25 0 1 3b2 0 1 3b3 0 1 3b4 0 1 3c6 0 1 3c7 0 1 69 0 1 72 0 1 75 0 1 76
    0 1 3b2 0 1 3b3 0 1 3c1 0 1 3c6 0 1 3c7 d 1 43d 22 1 252 0 1 63 0 1 255 0 1 f0 0 1 25c 0 1
    66 0 1 25f 0 1 261 0 1 265 0 1 268 0 1 269 0 1 26a 0 1 1d7b 0 1 29d 0 1 26d 0 1 1d85 0 1
    29f 0 1 271 0 1 270 0 1 272 0 1 273 0 1 274 0 1 275 0 1 278 0 1 282 0 1 283 0 1 1ab 0 1
    289 0 1 28a 0 1 1d1c 0 1 28b 0 1 28c 0 1 7a 0 1 290 0 1 291 0 1 292 0 1 3b8 40 2 41 325 0
    2 61 325 0 2 42 307 0 2 62 307 0 2 42 323 0 2 62 323 0 2 42 331 0 2 62 331 0 3 43 327 301
    0 3 63 327 301 0 2 44 307 0 2 64 307 0 2 44 323 0 2 64 323 0 2 44 331 0 2 64 331 0 2 44
    327 0 2 64 327 0 2 44 32d 0 2 64 32d 0 3 45 304 300 0 3 65 304 300 0 3 45 304 301 0 3 65
    304 301 0 2 45 32d 0 2 65 32d 0 2 45 330 0 2 65 330 0 3 45 327 306 0 3 65 327 306 0 2 46
    307 0 2 66 307 0 2 47 304 0 2 67 304 0 2 48 307 0 2 68 307 0 2 48 323 0 2 68 323 0 2 48
    308 0 2 68 308 0 2 48 327 0 2 68 327 0 2 48 32e 0 2 68 32e 0 2 49 330 0 2 69 330 0 3 49
    308 301 0 3 69 308 301 0 2 4b 301 0 2 6b 301 0 2 4b 323 0 2 6b 323 0 2 4b 331 0 2 6b 331 0
    2 4c 323 0 2 6c 323 0 3 4c 323 304 0 3 6c 323 304 0 2 4c 331 0 2 6c 331 0 2 4c 32d 0 2 6c
    32d 0 2 4d 301 0 2 6d 301 0 2 4d 307 0 2 6d 307 0 2 4d 323 0 2 6d 323 0 2 4e 307 0 2 6e
    307 0 2 4e 323 0 2 6e 323 0 2 4e 331 0 2 6e 331 0 2 4e 32d 0 2 6e 32d 0 3 4f 303 301 0 3
    6f 303 301 0 3 4f 303 308 0 3 6f 303 308 0 3 4f 304 300 0 3 6f 304 300 0 3 4f 304 301 0 3
    6f 304 301 0 2 50 301 0 2 70 301 0 2 50 307 0 2 70 307 0 2 52 307 0 2 72 307 0 2 52 323 0
    2 72 323 0 3 52 323 304 0 3 72 323 304 0 2 52 331 0 2 72 331 0 2 53 307 0 2 73 307 0 2 53
    323 0 2 73 323 0 3 53 301 307 0 3 73 301 307 0 3 53 30c 307 0 3 73 30c 307 0 3 53 323 307
    0 3 73 323 307 0 2 54 307 0 2 74 307 0 2 54 323 0 2 74 323 0 2 54 331 0 2 74 331 0 2 54
    32d 0 2 74 32d 0 2 55 324 0 2 75 324 0 2 55 330 0 2 75 330 0 2 55 32d 0 2 75 32d 0 3 55
    303 301 0 3 75 303 301 0 3 55 304 308 0 3 75 304 308 0 2 56 303 0 2 76 303 0 2 56 323 0 2
    76 323 0 2 57 300 0 2 77 300 0 2 57 301 0 2 77 301 0 2 57 308 0 2 77 308 0 2 57 307 0 2 77
    307 0 2 57 323 0 2 77 323 0 2 58 307 0 2 78 307 0 2 58 308 0 2 78 308 0 2 59 307 0 2 79
    307 0 2 5a 302 0 2 7a 302 0 2 5a 323 0 2 7a 323 0 2 5a 331 0 2 7a 331 0 2 68 331 0 2 74
    308 0 2 77 30a 0 2 79 30a 0 2 61 2be 0 2 73 307 4 2 41 323 0 2 61 323 0 2 41 309 0 2 61
    309 0 3 41 302 301 0 3 61 302 301 0 3 41 302 300 0 3 61 302 300 0 3 41 302 309 0 3 61 302
    309 0 3 41 302 303 0 3 61 302 303 0 3 41 323 302 0 3 61 323 302 0 3 41 306 301 0 3 61 306
    301 0 3 41 306 300 0 3 61 306 300 0 3 41 306 309 0 3 61 306 309 0 3 41 306 303 0 3 61 306
    303 0 3 41 323 306 0 3 61 323 306 0 2 45 323 0 2 65 323 0 2 45 309 0 2 65 309 0 2 45 303 0
    2 65 303 0 3 45 302 301 0 3 65 302 301 0 3 45 302 300 0 3 65 302 300 0 3 45 302 309 0 3 65
    302 309 0 3 45 302 303 0 3 65 302 303 0 3 45 323 302 0 3 65 323 302 0 2 49 309 0 2 69 309
    0 2 49 323 0 2 69 323 0 2 4f 323 0 2 6f 323 0 2 4f 309 0 2 6f 309 0 3 4f 302 301 0 3 6f
    302 301 0 3 4f 302 300 0 3 6f 302 300 0 3 4f 302 309 0 3 6f 302 309 0 3 4f 302 303 0 3 6f
    302 303 0 3 4f 323 302 0 3 6f 323 302 0 3 4f 31b 301 0 3 6f 31b 301 0 3 4f 31b 300 0 3 6f
    31b 300 0 3 4f 31b 309 0 3 6f 31b 309 0 3 4f 31b 303 0 3 6f 31b 303 0 3 4f 31b 323 0 3 6f
    31b 323 0 2 55 323 0 2 75 323 0 2 55 309 0 2 75 309 0 3 55 31b 301 0 3 75 31b 301 0 3 55
    31b 300 0 3 75 31b 300 0 3 55 31b 309 0 3 75 31b 309 0 3 55 31b 303 0 3 75 31b 303 0 3 55
    31b 323 0 3 75 31b 323 0 2 59 300 0 2 79 300 0 2 59 323 0 2 79 323 0 2 59 309 0 2 79 309 0
    2 59 303 0 2 79 303 6 2 3b1 313 0 2 3b1 314 0 3 3b1 313 300 0 3 3b1 314 300 0 3 3b1 313
    301 0 3 3b1 314 301 0 3 3b1 313 342 0 3 3b1 314 342 0 2 391 313 0 2 391 314 0 3 391 313
    300 0 3 391 314 300 0 3 391 313 301 0 3 391 314 301 0 3 391 313 342 0 3 391 314 342 0 2
    3b5 313 0 2 3b5 314 0 3 3b5 313 300 0 3 3b5 314 300 0 3 3b5 313 301 0 3 3b5 314 301 2 2
    395 313 0 2 395 314 0 3 395 313 300 0 3 395 314 300 0 3 395 313 301 0 3 395 314 301 2 2
    3b7 313 0 2 3b7 314 0 3 3b7 313 300 0 3 3b7 314 300 0 3 3b7 313 301 0 3 3b7 314 301 0 3
    3b7 313 342 0 3 3b7 314 342 0 2 397 313 0 2 397 314 0 3 397 313 300 0 3 397 314 300 0 3
    397 313 301 0 3 397 314 301 0 3 397 313 342 0 3 397 314 342 0 2 3b9 313 0 2 3b9 314 0 3
    3b9 313 300 0 3 3b9 314 300 0 3 3b9 313 301 0 3 3b9 314 301 0 3 3b9 313 342 0 3 3b9 314
    342 0 2 399 313 0 2 399 314 0 3 399 313 300 0 3 399 314 300 0 3 399 313 301 0 3 399 314
    301 0 3 399 313 342 0 3 399 314 342 0 2 3bf 313 0 2 3bf 314 0 3 3bf 313 300 0 3 3bf 314
    300 0 3 3bf 313 301 0 3 3bf 314 301 2 2 39f 313 0 2 39f 314 0 3 39f 313 300 0 3 39f 314
    300 0 3 39f 313 301 0 3 39f 314 301 2 2 3c5 313 0 2 3c5 314 0 3 3c5 313 300 0 3 3c5 314
    300 0 3 3c5 313 301 0 3 3c5 314 301 0 3 3c5 313 342 0 3 3c5 314 342 1 2 3a5 314 1 3 3a5
    314 300 1 3 3a5 314 301 1 3 3a5 314 342 0 2 3c9 313 0 2 3c9 314 0 3 3c9 313 300 0 3 3c9
    314 300 0 3 3c9 313 301 0 3 3c9 314 301 0 3 3c9 313 342 0 3 3c9 314 342 0 2 3a9 313 0 2
    3a9 314 0 3 3a9 313 300 0 3 3a9 314 300 0 3 3a9 313 301 0 3 3a9 314 301 0 3 3a9 313 342 0
    3 3a9 314 342 0 2 3b1 300 0 2 3b1 301 0 2 3b5 300 0 2 3b5 301 0 2 3b7 300 0 2 3b7 301 0 2
    3b9 300 0 2 3b9 301 0 2 3bf 300 0 2 3bf 301 0 2 3c5 300 0 2 3c5 301 0 2 3c9 300 0 2 3c9
    301 2 3 3b1 313 345 0 3 3b1 314 345 0 4 3b1 313 300 345 0 4 3b1 314 300 345 0 4 3b1 313
    301 345 0 4 3b1 314 301 345 0 4 3b1 313 342 345 0 4 3b1 314 342 345 0 3 391 313 345 0 3
    391 314 345 0 4 391 313 300 345 0 4 391 314 300 345 0 4 391 313 301 345 0 4 391 314 301
    345 0 4 391 313 342 345 0 4 391 314 342 345 0 3 3b7 313 345 0 3 3b7 314 345 0 4 3b7 313
    300 345 0 4 3b7 314 300 345 0 4 3b7 313 301 345 0 4 3b7 314 301 345 0 4 3b7 313 342 345 0
    4 3b7 314 342 345 0 3 397 313 345 0 3 397 314 345 0 4 397 313 300 345 0 4 397 314 300 345
    0 4 397 313 301 345 0 4 397 314 301 345 0 4 397 313 342 345 0 4 397 314 342 345 0 3 3c9
    313 345 0 3 3c9 314 345 0 4 3c9 313 300 345 0 4 3c9 314 300 345 0 4 3c9 313 301 345 0 4
    3c9 314 301 345 0 4 3c9 313 342 345 0 4 3c9 314 342 345 0 3 3a9 313 345 0 3 3a9 314 345 0
    4 3a9 313 300 345 0 4 3a9 314 300 345 0 4 3a9 313 301 345 0 4 3a9 314 301 345 0 4 3a9 313
    342 345 0 4 3a9 314 342 345 0 2 3b1 306 0 2 3b1 304 0 3 3b1 300 345 0 2 3b1 345 0 3 3b1
    301 345 1 2 3b1 342 0 3 3b1 342 345 0 2 391 306 0 2 391 304 0 2 391 300 0 2 391 301 0 2
    391 345 1 1 3b9 3 3 3b7 300 345 0 2 3b7 345 0 3 3b7 301 345 1 2 3b7 342 0 3 3b7 342 345 0
    2 395 300 0 2 395 301 0 2 397 300 0 2 397 301 0 2 397 345 3 2 3b9 306 0 2 3b9 304 0 3 3b9
    308 300 0 3 3b9 308 301 2 2 3b9 342 0 3 3b9 308 342 0 2 399 306 0 2 399 304 0 2 399 300 0
    2 399 301 4 2 3c5 306 0 2 3c5 304 0 3 3c5 308 300 0 3 3c5 308 301 0 2 3c1 313 0 2 3c1 314
    0 2 3c5 342 0 3 3c5 308 342 0 2 3a5 306 0 2 3a5 304 0 2 3a5 300 0 2 3a5 301 0 2 3a1 314 5
    3 3c9 300 345 0 2 3c9 345 0 3 3c9 301 345 1 2 3c9 342 0 3 3c9 342 345 0 2 39f 300 0 2 39f
    301 0 2 3a9 300 0 2 3a9 301 0 2 3a9 345 74 1 69 d 1 6e 10 1 61 0 1 65 0 1 6f 0 1 78 0 1
    259 0 1 68 0 1 6b 0 1 6c 0 1 6d 0 1 6e 0 1 70 0 1 73 0 1 74 65 1 43 4 1 190 2 1 67 0 1 48
    0 1 48 0 1 48 0 1 68 0 1 127 0 1 49 0 1 49 0 1 4c 0 1 6c 1 1 4e 3 1 50 0 1 51 0 1 52 0 1
    52 0 1 52 6 1 5a 1 1 3a9 1 1 5a 1 1 4b 0 2 41 30a 0 1 42 0 1 43 1 1 65 0 1 45 0 1 46 1 1
    4d 0 1 6f 0 1 5d0 0 1 5d1 0 1 5d2 0 1 5d3 0 1 69 2 1 3c0 0 1 3b3 0 1 393 0 1 3a0 5 1 44 0
    1 64 0 1 65 0 1 69 0 1 6a 16 1 49 0 2 49 49 0 3 49 49 49 0 2 49 56 0 1 56 0 2 56 49 0 3 56
    49 49 0 4 56 49 49 49 0 2 49 58 0 1 58 0 2 58 49 0 3 58 49 49 0 1 4c 0 1 43 0 1 44 0 1 4d
    0 1 69 0 2 69 69 0 3 69 69 69 0 2 69 76 0 1 76 0 2 76 69 0 3 76 69 69 0 4 76 69 69 69 0 2
    69 78 0 1 78 0 2 78 69 0 3 78 69 69 0 1 6c 0 1 63 0 1 64 0 1 6d afc 1 6a 0 1 56 f1 1 2d61
    2c8 1 5341 0 1 5344 0 1 5345 11 2 304b 3099 1 2 304d 3099 1 2 304f 3099 1 2 3051 3099 1 2
    3053 3099 1 2 3055 3099 1 2 3057 3099 1 2 3059 3099 1 2 305b 3099 1 2 305d 3099 1 2 305f
    3099 1 2 3061 3099 2 2 3064 3099 1 2 3066 3099 1 2 3068 3099 6 2 306f 3099 0 2 306f 309a 1
    2 3072 3099 0 2 3072 309a 1 2 3075 3099 0 2 3075 309a 1 2 3078 3099 0 2 3078 309a 1 2 307b
    3099 0 2 307b 309a 16 2 3046 3099 9 2 309d 3099 0 2 3088 308a c 2 30ab 3099 1 2 30ad 3099
    1 2 30af 3099 1 2 30b1 3099 1 2 30b3 3099 1 2 30b5 3099 1 2 30b7 3099 1 2 30b9 3099 1 2
    30bb 3099 1 2 30bd 3099 1 2 30bf 3099 1 2 30c1 3099 2 2 30c4 3099 1 2 30c6 3099 1 2 30c8
    3099 6 2 30cf 3099 0 2 30cf 309a 1 2 30d2 3099 0 2 30d2 309a 1 2 30d5 3099 0 2 30d5 309a 1
    2 30d8 3099 0 2 30d8 309a 1 2 30db 3099 0 2 30db 309a 16 2 30a6 3099 2 2 30ef 3099 0 2
    30f0 3099 0 2 30f1 3099 0 2 30f2 3099 3 2 30fd 3099 0 2 30b3 30c8 31 1 1100 0 1 1101 0 1
    11aa 0 1 1102 0 1 11ac 0 1 11ad 0 1 1103 0 1 1104 0 1 1105 0 1 11b0 0 1 11b1 0 1 11b2 0 1
    11b3 0 1 11b4 0 1 11b5 0 1 111a 0 1 1106 0 1 1107 0 1 1108 0 1 1121 0 1 1109 0 1 110a 0 1
    110b 0 1 110c 0 1 110d 0 1 110e 0 1 110f 0 1 1110 0 1 1111 0 1 1112 0 1 1161 0 1 1162 0 1
    1163 0 1 1164 0 1 1165 0 1 1166 0 1 1167 0 1 1168 0 1 1169 0 1 116a 0 1 116b 0 1 116c 0 1
    116d 0 1 116e 0 1 116f 0 1 1170 0 1 1171 0 1 1172 0 1 1173 0 1 1174 0 1 1175 0 1 1160 0 1
    1114 0 1 1115 0 1 11c7 0 1 11c8 0 1 11cc 0 1 11ce 0 1 11d3 0 1 11d7 0 1 11d9 0 1 111c 0 1
    11dd 0 1 11df 0 1 111d 0 1 111e 0 1 1120 0 1 1122 0 1 1123 0 1 1127 0 1 1129 0 1 112b 0 1
    112c 0 1 112d 0 1 112e 0 1 112f 0 1 1132 0 1 1136 0 1 1140 0 1 1147 0 1 114c 0 1 11f1 0 1
    11f2 0 1 1157 0 1 1158 0 1 1159 0 1 1184 0 1 1185 0 1 1188 0 1 1191 0 1 1192 0 1 1194 0 1
    119e 0 1 11a1 750d 1 44a 0 1 44c d2 1 a76f 81 1 43 0 1 46 0 1 51 3 1 126 0 1 153 362 1
    a727 0 1 ab37 0 1 26b 0 1 ab52 9 1 28d 4d96 1 8c48 0 1 66f4 0 1 8eca 0 1 8cc8 0 1 6ed1 0 1
    4e32 0 1 53e5 0 1 9f9c 0 1 9f9c 0 1 5951 0 1 91d1 0 1 5587 0 1 5948 0 1 61f6 0 1 7669 0 1
    7f85 0 1 863f 0 1 87ba 0 1 88f8 0 1 908f 0 1 6a02 0 1 6d1b 0 1 70d9 0 1 73de 0 1 843d 0 1
    916a 0 1 99f1 0 1 4e82 0 1 5375 0 1 6b04 0 1 721b 0 1 862d 0 1 9e1e 0 1 5d50 0 1 6feb 0 1
    85cd 0 1 8964 0 1 62c9 0 1 81d8 0 1 881f 0 1 5eca 0 1 6717 0 1 6d6a 0 1 72fc 0 1 90ce 0 1
    4f86 0 1 51b7 0 1 52de 0 1 64c4 0 1 6ad3 0 1 7210 0 1 76e7 0 1 8001 0 1 8606 0 1 865c 0 1
    8def 0 1 9732 0 1 9b6f 0 1 9dfa 0 1 788c 0 1 797f 0 1 7da0 0 1 83c9 0 1 9304 0 1 9e7f 0 1
    8ad6 0 1 58df 0 1 5f04 0 1 7c60 0 1 807e 0 1 7262 0 1 78ca 0 1 8cc2 0 1 96f7 0 1 58d8 0 1
    5c62 0 1 6a13 0 1 6dda 0 1 6f0f 0 1 7d2f 0 1 7e37 0 1 964b 0 1 52d2 0 1 808b 0 1 51dc 0 1
    51cc 0 1 7a1c 0 1 7dbe 0 1 83f1 0 1 9675 0 1 8b80 0 1 62cf 0 1 6a02 0 1 8afe 0 1 4e39 0 1
    5be7 0 1 6012 0 1 7387 0 1 7570 0 1 5317 0 1 78fb 0 1 4fbf 0 1 5fa9 0 1 4e0d 0 1 6ccc 0 1
    6578 0 1 7d22 0 1 53c3 0 1 585e 0 1 7701 0 1 8449 0 1 8aaa 0 1 6bba 0 1 8fb0 0 1 6c88 0 1
    62fe 0 1 82e5 0 1 63a0 0 1 7565 0 1 4eae 0 1 5169 0 1 51c9 0 1 6881 0 1 7ce7 0 1 826f 0 1
    8ad2 0 1 91cf 0 1 52f5 0 1 5442 0 1 5973 0 1 5eec 0 1 65c5 0 1 6ffe 0 1 792a 0 1 95ad 0 1
    9a6a 0 1 9e97 0 1 9ece 0 1 529b 0 1 66c6 0 1 6b77 0 1 8f62 0 1 5e74 0 1 6190 0 1 6200 0 1
    649a 0 1 6f23 0 1 7149 0 1 7489 0 1 79ca 0 1 7df4 0 1 806f 0 1 8f26 0 1 84ee 0 1 9023 0 1
    934a 0 1 5217 0 1 52a3 0 1 54bd 0 1 70c8 0 1 88c2 0 1 8aaa 0 1 5ec9 0 1 5ff5 0 1 637b 0 1
    6bae 0 1 7c3e 0 1 7375 0 1 4ee4 0 1 56f9 0 1 5be7 0 1 5dba 0 1 601c 0 1 73b2 0 1 7469 0 1
    7f9a 0 1 8046 0 1 9234 0 1 96f6 0 1 9748 0 1 9818 0 1 4f8b 0 1 79ae 0 1 91b4 0 1 96b8 0 1
    60e1 0 1 4e86 0 1 50da 0 1 5bee 0 1 5c3f 0 1 6599 0 1 6a02 0 1 71ce 0 1 7642 0 1 84fc 0 1
    907c 0 1 9f8d 0 1 6688 0 1 962e 0 1 5289 0 1 677b 0 1 67f3 0 1 6d41 0 1 6e9c 0 1 7409 0 1
    7559 0 1 786b 0 1 7d10 0 1 985e 0 1 516d 0 1 622e 0 1 9678 0 1 502b 0 1 5d19 0 1 6dea 0 1
    8f2a 0 1 5f8b 0 1 6144 0 1 6817 0 1 7387 0 1 9686 0 1 5229 0 1 540f 0 1 5c65 0 1 6613 0 1
    674e 0 1 68a8 0 1 6ce5 0 1 7406 0 1 75e2 0 1 7f79 0 1 88cf 0 1 88e1 0 1 91cc 0 1 96e2 0 1
    533f 0 1 6eba 0 1 541d 0 1 71d0 0 1 7498 0 1 85fa 0 1 96a3 0 1 9c57 0 1 9e9f 0 1 6797 0 1
    6dcb 0 1 81e8 0 1 7acb 0 1 7b20 0 1 7c92 0 1 72c0 0 1 7099 0 1 8b58 0 1 4ec0 0 1 8336 0 1
    523a 0 1 5207 0 1 5ea6 0 1 62d3 0 1 7cd6 0 1 5b85 0 1 6d1e 0 1 66b4 0 1 8f3b 0 1 884c 0 1
    964d 0 1 898b 0 1 5ed3 0 1 5140 0 1 55c0 2 1 585a 1 1 6674 2 1 51de 0 1 732a 0 1 76ca 0 1
    793c 0 1 795e 0 1 7965 0 1 798f 0 1 9756 0 1 7cbe 0 1 7fbd 1 1 8612 1 1 8af8 2 1 9038 0 1
    90fd 3 1 98ef 0 1 98fc 0 1 9928 0 1 9db4 0 1 90de 0 1 96b7 0 1 4fae 0 1 50e7 0 1 514d 0 1
    52c9 0 1 52e4 0 1 5351 0 1 559d 0 1 5606 0 1 5668 0 1 5840 0 1 58a8 0 1 5c64 0 1 5c6e 0 1
    6094 0 1 6168 0 1 618e 0 1 61f2 0 1 654f 0 1 65e2 0 1 6691 0 1 6885 0 1 6d77 0 1 6e1a 0 1
    6f22 0 1 716e 0 1 722b 0 1 7422 0 1 7891 0 1 793e 0 1 7949 0 1 7948 0 1 7950 0 1 7956 0 1
    795d 0 1 798d 0 1 798e 0 1 7a40 0 1 7a81 0 1 7bc0 0 1 7df4 0 1 7e09 0 1 7e41 0 1 7f72 0 1
    8005 0 1 81ed 0 1 8279 0 1 8279 0 1 8457 0 1 8910 0 1 8996 0 1 8b01 0 1 8b39 0 1 8cd3 0 1
    8d08 0 1 8fb6 0 1 9038 0 1 96e3 0 1 97ff 0 1 983b 0 1 6075 0 1 242ee 0 1 8218 2 1 4e26 0 1
    51b5 0 1 5168 0 1 4f80 0 1 5145 0 1 5180 0 1 52c7 0 1 52fa 0 1 559d 0 1 5555 0 1 5599 0 1
    55e2 0 1 585a 0 1 58b3 0 1 5944 0 1 5954 0 1 5a62 0 1 5b28 0 1 5ed2 0 1 5ed9 0 1 5f69 0 1
    5fad 0 1 60d8 0 1 614e 0 1 6108 0 1 618e 0 1 6160 0 1 61f2 0 1 6234 0 1 63c4 0 1 641c 0 1
    6452 0 1 6556 0 1 6674 0 1 6717 0 1 671b 0 1 6756 0 1 6b79 0 1 6bba 0 1 6d41 0 1 6edb 0 1
    6ecb 0 1 6f22 0 1 701e 0 1 716e 0 1 77a7 0 1 7235 0 1 72af 0 1 732a 0 1 7471 0 1 7506 0 1
    753b 0 1 761d 0 1 761f 0 1 76ca 0 1 76db 0 1 76f4 0 1 774a 0 1 7740 0 1 78cc 0 1 7ab1 0 1
    7bc0 0 1 7c7b 0 1 7d5b 0 1 7df4 0 1 7f3e 0 1 8005 0 1 8352 0 1 83ef 0 1 8779 0 1 8941 0 1
    8986 0 1 8996 0 1 8abf 0 1 8af8 0 1 8acb 0 1 8b01 0 1 8afe 0 1 8aed 0 1 8b39 0 1 8b8a 0 1
    8d08 0 1 8f38 0 1 9072 0 1 9199 0 1 9276 0 1 967c 0 1 96e3 0 1 9756 0 1 97db 0 1 97ff 0 1
    980b 0 1 983b 0 1 9b12 0 1 9f9c 0 1 2284a 0 1 22844 0 1 233d5 0 1 3b9d 0 1 4018 0 1 4039 0
    1 25249 0 1 25cd0 0 1 27ed3 0 1 9f43 0 1 9f8e 26 2 66 66 0 2 66 69 0 2 66 6c 0 3 66 66 69
    0 3 66 66 6c 0 2 73 74 0 2 73 74 c 2 574 576 0 2 574 565 0 2 574 56b 0 2 57e 576 0 2 574
    56d 5 2 5d9 5b4 1 2 5f2 5b7 0 1 5e2 0 1 5d0 0 1 5d3 0 1 5d4 0 1 5db 0 1 5dc 0 1 5dd 0 1
    5e8 0 1 5ea 1 2 5e9 5c1 0 2 5e9 5c2 0 3 5e9 5bc 5c1 0 3 5e9 5bc 5c2 0 2 5d0 5b7 0 2 5d0
    5b8 0 2 5d0 5bc 0 2 5d1 5bc 0 2 5d2 5bc 0 2 5d3 5bc 0 2 5d4 5bc 0 2 5d5 5bc 0 2 5d6 5bc 1
    2 5d8 5bc 0 2 5d9 5bc 0 2 5da 5bc 0 2 5db 5bc 0 2 5dc 5bc 1 2 5de 5bc 1 2 5e0 5bc 0 2 5e1
    5bc 1 2 5e3 5bc 0 2 5e4 5bc 1 2 5e6 5bc 0 2 5e7 5bc 0 2 5e8 5bc 0 2 5e9 5bc 0 2 5ea 5bc 0
    2 5d5 5b9 0 2 5d1 5bf 0 2 5db 5bf 0 2 5e4 5bf 0 2 5d0 5dc 0 1 671 0 1 671 0 1 67b 0 1 67b
    0 1 67b 0 1 67b 0 1 67e 0 1 67e 0 1 67e 0 1 67e 0 1 680 0 1 680 0 1 680 0 1 680 0 1 67a 0
    1 67a 0 1 67a 0 1 67a 0 1 67f 0 1 67f 0 1 67f 0 1 67f 0 1 679 0 1 679 0 1 679 0 1 679 0 1
    6a4 0 1 6a4 0 1 6a4 0 1 6a4 0 1 6a6 0 1 6a6 0 1 6a6 0 1 6a6 0 1 684 0 1 684 0 1 684 0 1
    684 0 1 683 0 1 683 0 1 683 0 1 683 0 1 686 0 1 686 0 1 686 0 1 686 0 1 687 0 1 687 0 1
    687 0 1 687 0 1 68d 0 1 68d 0 1 68c 0 1 68c 0 1 68e 0 1 68e 0 1 688 0 1 688 0 1 698 0 1
    698 0 1 691 0 1 691 0 1 6a9 0 1 6a9 0 1 6a9 0 1 6a9 0 1 6af 0 1 6af 0 1 6af 0 1 6af 0 1
    6b3 0 1 6b3 0 1 6b3 0 1 6b3 0 1 6b1 0 1 6b1 0 1 6b1 0 1 6b1 0 1 6ba 0 1 6ba 0 1 6bb 0 1
    6bb 0 1 6bb 0 1 6bb 0 2 6d5 654 0 2 6d5 654 0 1 6c1 0 1 6c1 0 1 6c1 0 1 6c1 0 1 6be 0 1
    6be 0 1 6be 0 1 6be 0 1 6d2 0 1 6d2 0 2 6d2 654 0 2 6d2 654 21 1 6ad 0 1 6ad 0 1 6ad 0 1
    6ad 0 1 6c7 0 1 6c7 0 1 6c6 0 1 6c6 0 1 6c8 0 1 6c8 0 2 6c7 674 0 1 6cb 0 1 6cb 0 1 6c5 0
    1 6c5 0 1 6c9 0 1 6c9 0 1 6d0 0 1 6d0 0 1 6d0 0 1 6d0 0 1 649 0 1 649 0 3 64a 654 627 0 3
    64a 654 627 0 3 64a 654 6d5 0 3 64a 654 6d5 0 3 64a 654 648 0 3 64a 654 648 0 3 64a 654
    6c7 0 3 64a 654 6c7 0 3 64a 654 6c6 0 3 64a 654 6c6 0 3 64a 654 6c8 0 3 64a 654 6c8 0 3
    64a 654 6d0 0 3 64a 654 6d0 0 3 64a 654 6d0 0 3 64a 654 649 0 3 64a 654 649 0 3 64a 654
    649 0 1 6cc 0 1 6cc 0 1 6cc 0 1 6cc 0 3 64a 654 62c 0 3 64a 654 62d 0 3 64a 654 645 0 3
    64a 654 649 0 3 64a 654 64a 0 2 628 62c 0 2 628 62d 0 2 628 62e 0 2 628 645 0 2 628 649 0
    2 628 64a 0 2 62a 62c 0 2 62a 62d 0 2 62a 62e 0 2 62a 645 0 2 62a 649 0 2 62a 64a 0 2 62b
    62c 0 2 62b 645 0 2 62b 649 0 2 62b 64a 0 2 62c 62d 0 2 62c 645 0 2 62d 62c 0 2 62d 645 0
    2 62e 62c 0 2 62e 62d 0 2 62e 645 0 2 633 62c 0 2 633 62d 0 2 633 62e 0 2 633 645 0 2 635
    62d 0 2 635 645 0 2 636 62c 0 2 636 62d 0 2 636 62e 0 2 636 645 0 2 637 62d 0 2 637 645 0
    2 638 645 0 2 639 62c 0 2 639 645 0 2 63a 62c 0 2 63a 645 0 2 641 62c 0 2 641 62d 0 2 641
    62e 0 2 641 645 0 2 641 649 0 2 641 64a 0 2 642 62d 0 2 642 645 0 2 642 649 0 2 642 64a 0
    2 643 627 0 2 643 62c 0 2 643 62d 0 2 643 62e 0 2 643 644 0 2 643 645 0 2 643 649 0 2 643
    64a 0 2 644 62c 0 2 644 62d 0 2 644 62e 0 2 644 645 0 2 644 649 0 2 644 64a 0 2 645 62c 0
    2 645 62d 0 2 645 62e 0 2 645 645 0 2 645 649 0 2 645 64a 0 2 646 62c 0 2 646 62d 0 2 646
    62e 0 2 646 645 0 2 646 649 0 2 646 64a 0 2 647 62c 0 2 647 645 0 2 647 649 0 2 647 64a 0
    2 64a 62c 0 2 64a 62d 0 2 64a 62e 0 2 64a 645 0 2 64a 649 0 2 64a 64a 0 2 630 670 0 2 631
    670 0 2 649 670 6 3 64a 654 631 0 3 64a 654 632 0 3 64a 654 645 0 3 64a 654 646 0 3 64a
    654 649 0 3 64a 654 64a 0 2 628 631 0 2 628 632 0 2 628 645 0 2 628 646 0 2 628 649 0 2
    628 64a 0 2 62a 631 0 2 62a 632 0 2 62a 645 0 2 62a 646 0 2 62a 649 0 2 62a 64a 0 2 62b
    631 0 2 62b 632 0 2 62b 645 0 2 62b 646 0 2 62b 649 0 2 62b 64a 0 2 641 649 0 2 641 64a 0
    2 642 649 0 2 642 64a 0 2 643 627 0 2 643 644 0 2 643 645 0 2 643 649 0 2 643 64a 0 2 644
    645 0 2 644 649 0 2 644 64a 0 2 645 627 0 2 645 645 0 2 646 631 0 2 646 632 0 2 646 645 0
    2 646 646 0 2 646 649 0 2 646 64a 0 2 649 670 0 2 64a 631 0 2 64a 632 0 2 64a 645 0 2 64a
    646 0 2 64a 649 0 2 64a 64a 0 3 64a 654 62c 0 3 64a 654 62d 0 3 64a 654 62e 0 3 64a 654
    645 0 3 64a 654 647 0 2 628 62c 0 2 628 62d 0 2 628 62e 0 2 628 645 0 2 628 647 0 2 62a
    62c 0 2 62a 62d 0 2 62a 62e 0 2 62a 645 0 2 62a 647 0 2 62b 645 0 2 62c 62d 0 2 62c 645 0
    2 62d 62c 0 2 62d 645 0 2 62e 62c 0 2 62e 645 0 2 633 62c 0 2 633 62d 0 2 633 62e 0 2 633
    645 0 2 635 62d 0 2 635 62e 0 2 635 645 0 2 636 62c 0 2 636 62d 0 2 636 62e 0 2 636 645 0
    2 637 62d 0 2 638 645 0 2 639 62c 0 2 639 645 0 2 63a 62c 0 2 63a 645 0 2 641 62c 0 2 641
    62d 0 2 641 62e 0 2 641 645 0 2 642 62d 0 2 642 645 0 2 643 62c 0 2 643 62d 0 2 643 62e 0
    2 643 644 0 2 643 645 0 2 644 62c 0 2 644 62d 0 2 644 62e 0 2 644 645 0 2 644 647 0 2 645
    62c 0 2 645 62d 0 2 645 62e 0 2 645 645 0 2 646 62c 0 2 646 62d 0 2 646 62e 0 2 646 645 0
    2 646 647 0 2 647 62c 0 2 647 645 0 2 647 670 0 2 64a 62c 0 2 64a 62d 0 2 64a 62e 0 2 64a
    645 0 2 64a 647 0 3 64a 654 645 0 3 64a 654 647 0 2 628 645 0 2 628 647 0 2 62a 645 0 2
    62a 647 0 2 62b 645 0 2 62b 647 0 2 633 645 0 2 633 647 0 2 634 645 0 2 634 647 0 2 643
    644 0 2 643 645 0 2 644 645 0 2 646 645 0 2 646 647 0 2 64a 645 0 2 64a 647 0 3 640 64e
    651 0 3 640 64f 651 0 3 640 650 651 0 2 637 649 0 2 637 64a 0 2 639 649 0 2 639 64a 0 2
    63a 649 0 2 63a 64a 0 2 633 649 0 2 633 64a 0 2 634 649 0 2 634 64a 0 2 62d 649 0 2 62d
    64a 0 2 62c 649 0 2 62c 64a 0 2 62e 649 0 2 62e 64a 0 2 635 649 0 2 635 64a 0 2 636 649 0
    2 636 64a 0 2 634 62c 0 2 634 62d 0 2 634 62e 0 2 634 645 0 2 634 631 0 2 633 631 0 2 635
    631 0 2 636 631 0 2 637 649 0 2 637 64a 0 2 639 649 0 2 639 64a 0 2 63a 649 0 2 63a 64a 0
    2 633 649 0 2 633 64a 0 2 634 649 0 2 634 64a 0 2 62d 649 0 2 62d 64a 0 2 62c 649 0 2 62c
    64a 0 2 62e 649 0 2 62e 64a 0 2 635 649 0 2 635 64a 0 2 636 649 0 2 636 64a 0 2 634 62c 0
    2 634 62d 0 2 634 62e 0 2 634 645 0 2 634 631 0 2 633 631 0 2 635 631 0 2 636 631 0 2 634
    62c 0 2 634 62d 0 2 634 62e 0 2 634 645 0 2 633 647 0 2 634 647 0 2 637 645 0 2 633 62c 0
    2 633 62d 0 2 633 62e 0 2 634 62c 0 2 634 62d 0 2 634 62e 0 2 637 645 0 2 638 645 0 2 627
    64b 0 2 627 64b 12 3 62a 62c 645 0 3 62a 62d 62c 0 3 62a 62d 62c 0 3 62a 62d 645 0 3 62a
    62e 645 0 3 62a 645 62c 0 3 62a 645 62d 0 3 62a 645 62e 0 3 62c 645 62d 0 3 62c 645 62d 0
    3 62d 645 64a 0 3 62d 645 649 0 3 633 62d 62c 0 3 633 62c 62d 0 3 633 62c 649 0 3 633 645
    62d 0 3 633 645 62d 0 3 633 645 62c 0 3 633 645 645 0 3 633 645 645 0 3 635 62d 62d 0 3
    635 62d 62d 0 3 635 645 645 0 3 634 62d 645 0 3 634 62d 645 0 3 634 62c 64a 0 3 634 645
    62e 0 3 634 645 62e 0 3 634 645 645 0 3 634 645 645 0 3 636 62d 649 0 3 636 62e 645 0 3
    636 62e 645 0 3 637 645 62d 0 3 637 645 62d 0 3 637 645 645 0 3 637 645 64a 0 3 639 62c
    645 0 3 639 645 645 0 3 639 645 645 0 3 639 645 649 0 3 63a 645 645 0 3 63a 645 64a 0 3
    63a 645 649 0 3 641 62e 645 0 3 641 62e 645 0 3 642 645 62d 0 3 642 645 645 0 3 644 62d
    645 0 3 644 62d 64a 0 3 644 62d 649 0 3 644 62c 62c 0 3 644 62c 62c 0 3 644 62e 645 0 3
    644 62e 645 0 3 644 645 62d 0 3 644 645 62d 0 3 645 62d 62c 0 3 645 62d 645 0 3 645 62d
    64a 0 3 645 62c 62d 0 3 645 62c 645 0 3 645 62e 62c 0 3 645 62e 645 2 3 645 62c 62e 0 3
    647 645 62c 0 3 647 645 645 0 3 646 62d 645 0 3 646 62d 649 0 3 646 62c 645 0 3 646 62c
    645 0 3 646 62c 649 0 3 646 645 64a 0 3 646 645 649 0 3 64a 645 645 0 3 64a 645 645 0 3
    628 62e 64a 0 3 62a 62c 64a 0 3 62a 62c 649 0 3 62a 62e 64a 0 3 62a 62e 649 0 3 62a 645
    64a 0 3 62a 645 649 0 3 62c 645 64a 0 3 62c 62d 649 0 3 62c 645 649 0 3 633 62e 649 0 3
    635 62d 64a 0 3 634 62d 64a 0 3 636 62d 64a 0 3 644 62c 64a 0 3 644 645 64a 0 3 64a 62d
    64a 0 3 64a 62c 64a 0 3 64a 645 64a 0 3 645 645 64a 0 3 642 645 64a 0 3 646 62d 64a 0 3
    642 645 62d 0 3 644 62d 645 0 3 639 645 64a 0 3 643 645 64a 0 3 646 62c 62d 0 3 645 62e
    64a 0 3 644 62c 645 0 3 643 645 645 0 3 644 62c 645 0 3 646 62c 62d 0 3 62c 62d 64a 0 3
    62d 62c 64a 0 3 645 62c 64a 0 3 641 645 64a 0 3 628 62d 64a 0 3 643 645 645 0 3 639 62c
    645 0 3 635 645 645 0 3 633 62e 64a 0 3 646 62c 64a 28 3 635 644 6d2 0 3 642 644 6d2 0 4
    627 644 644 647 0 4 627 643 628 631 0 4 645 62d 645 62f 0 4 635 644 639 645 0 4 631 633
    648 644 0 4 639 644 64a 647 0 4 648 633 644 645 0 3 635 644 649 39 1 5f 0 1 5f 18 1 5f 0 1
    5f 0 1 5f 21 2 640 64b 5 2 640 64e 1 2 640 64f 1 2 640 650 1 2 640 651 1 2 640 652 0 1 621
    0 2 627 653 0 2 627 653 0 2 627 654 0 2 627 654 0 2 648 654 0 2 648 654 0 2 627 655 0 2
    627 655 0 2 64a 654 0 2 64a 654 0 2 64a 654 0 2 64a 654 0 1 627 0 1 627 0 1 628 0 1 628 0
    1 628 0 1 628 0 1 629 0 1 629 0 1 62a 0 1 62a 0 1 62a 0 1 62a 0 1 62b 0 1 62b 0 1 62b 0 1
    62b 0 1 62c 0 1 62c 0 1 62c 0 1 62c 0 1 62d 0 1 62d 0 1 62d 0 1 62d 0 1 62e 0 1 62e 0 1
    62e 0 1 62e 0 1 62f 0 1 62f 0 1 630 0 1 630 0 1 631 0 1 631 0 1 632 0 1 632 0 1 633 0 1
    633 0 1 633 0 1 633 0 1 634 0 1 634 0 1 634 0 1 634 0 1 635 0 1 635 0 1 635 0 1 635 0 1
    636 0 1 636 0 1 636 0 1 636 0 1 637 0 1 637 0 1 637 0 1 637 0 1 638 0 1 638 0 1 638 0 1
    638 0 1 639 0 1 639 0 1 639 0 1 639 0 1 63a 0 1 63a 0 1 63a 0 1 63a 0 1 641 0 1 641 0 1
    641 0 1 641 0 1 642 0 1 642 0 1 642 0 1 642 0 1 643 0 1 643 0 1 643 0 1 643 0 1 644 0 1
    644 0 1 644 0 1 644 0 1 645 0 1 645 0 1 645 0 1 645 0 1 646 0 1 646 0 1 646 0 1 646 0 1
    647 0 1 647 0 1 647 0 1 647 0 1 648 0 1 648 0 1 649 0 1 649 0 1 64a 0 1 64a 0 1 64a 0 1
    64a 0 3 644 627 653 0 3 644 627 653 0 3 644 627 654 0 3 644 627 654 0 3 644 627 655 0 3
    644 627 655 0 2 644 627 0 2 644 627 13 1 30 0 1 31 0 1 32 0 1 33 0 1 34 0 1 35 0 1 36 0 1
    37 0 1 38 0 1 39 7 1 41 0 1 42 0 1 43 0 1 44 0 1 45 0 1 46 0 1 47 0 1 48 0 1 49 0 1 4a 0 1
    4b 0 1 4c 0 1 4d 0 1 4e 0 1 4f 0 1 50 0 1 51 0 1 52 0 1 53 0 1 54 0 1 55 0 1 56 0 1 57 0 1
    58 0 1 59 0 1 5a 4 1 5f 1 1 61 0 1 62 0 1 63 0 1 64 0 1 65 0 1 66 0 1 67 0 1 68 0 1 69 0 1
    6a 0 1 6b 0 1 6c 0 1 6d 0 1 6e 0 1 6f 0 1 70 0 1 71 0 1 72 0 1 73 0 1 74 0 1 75 0 1 76 0 1
    77 0 1 78 0 1 79 0 1 7a b 1 30f2 0 1 30a1 0 1 30a3 0 1 30a5 0 1 30a7 0 1 30a9 0 1 30e3 0 1
    30e5 0 1 30e7 0 1 30c3 0 1 30fc 0 1 30a2 0 1 30a4 0 1 30a6 0 1 30a8 0 1 30aa 0 1 30ab 0 1
    30ad 0 1 30af 0 1 30b1 0 1 30b3 0 1 30b5 0 1 30b7 0 1 30b9 0 1 30bb 0 1 30bd 0 1 30bf 0 1
    30c1 0 1 30c4 0 1 30c6 0 1 30c8 0 1 30ca 0 1 30cb 0 1 30cc 0 1 30cd 0 1 30ce 0 1 30cf 0 1
    30d2 0 1 30d5 0 1 30d8 0 1 30db 0 1 30de 0 1 30df 0 1 30e0 0 1 30e1 0 1 30e2 0 1 30e4 0 1
    30e6 0 1 30e8 0 1 30e9 0 1 30ea 0 1 30eb 0 1 30ec 0 1 30ed 0 1 30ef 0 1 30f3 0 1 3099 0 1
    309a 0 1 1160 0 1 1100 0 1 1101 0 1 11aa 0 1 1102 0 1 11ac 0 1 11ad 0 1 1103 0 1 1104 0 1
    1105 0 1 11b0 0 1 11b1 0 1 11b2 0 1 11b3 0 1 11b4 0 1 11b5 0 1 111a 0 1 1106 0 1 1107 0 1
    1108 0 1 1121 0 1 1109 0 1 110a 0 1 110b 0 1 110c 0 1 110d 0 1 110e 0 1 110f 0 1 1110 0 1
    1111 0 1 1112 3 1 1161 0 1 1162 0 1 1163 0 1 1164 0 1 1165 0 1 1166 2 1 1167 0 1 1168 0 1
    1169 0 1 116a 0 1 116b 0 1 116c 2 1 116d 0 1 116e 0 1 116f 0 1 1170 0 1 1171 0 1 1172 2 1
    1173 0 1 1174 0 1 1175 7a4 1 2d0 0 1 2d1 0 1 e6 0 1 299 0 1 253 1 1 2a3 0 1 ab66 0 1 2a5 0
    1 2a4 0 1 256 0 1 257 0 1 1d91 0 1 258 0 1 25e 0 1 2a9 0 1 264 0 1 262 0 1 260 0 1 29b 0 1
    127 0 1 29c 0 1 267 0 1 284 0 1 2aa 0 1 2ab 0 1 26c 0 1 1df04 0 1 a78e 0 1 26e 0 1 1df05 0
    1 28e 0 1 1df06 0 1 f8 0 1 276 0 1 277 0 1 71 0 1 27a 0 1 1df08 0 1 27d 0 1 27e 0 1 280 0
    1 2a8 0 1 2a6 0 1 ab67 0 1 2a7 0 1 288 0 1 2c71 1 1 28f 0 1 2a1 0 1 2a2 0 1 298 0 1 1c0 0
    1 1c1 0 1 1c2 0 1 1df0a 0 1 1df1e 8df 2 11099 110ba 1 2 1109b 110ba e 2 110a5 110ba 82 2
    11131 11127 0 2 11132 11127 21b 2 11347 1133e 0 2 11347 11357 16e 2 114b9 114ba 0 2 114b9
    114b0 1 2 114b9 114bd fb 2 115b8 115af 0 2 115b9 115af 37c 2 11935 11930 bac7 1 41 0 1 42
    0 1 43 0 1 44 0 1 45 0 1 46 0 1 47 0 1 48 0 1 49 0 1 4a 0 1 4b 0 1 4c 0 1 4d 0 1 4e 0 1 4f
    0 1 50 0 1 51 0 1 52 0 1 53 0 1 54 0 1 55 0 1 56 0 1 57 0 1 58 0 1 59 0 1 5a 0 1 61 0 1 62
    0 1 63 0 1 64 0 1 65 0 1 66 0 1 67 0 1 68 0 1 69 0 1 6a 0 1 6b 0 1 6c 0 1 6d 0 1 6e 0 1 6f
    0 1 70 0 1 71 0 1 72 0 1 73 0 1 74 0 1 75 0 1 76 0 1 77 0 1 78 0 1 79 0 1 7a 0 1 41 0 1 42
    0 1 43 0 1 44 0 1 45 0 1 46 0 1 47 0 1 48 0 1 49 0 1 4a 0 1 4b 0 1 4c 0 1 4d 0 1 4e 0 1 4f
    0 1 50 0 1 51 0 1 52 0 1 53 0 1 54 0 1 55 0 1 56 0 1 57 0 1 58 0 1 59 0 1 5a 0 1 61 0 1 62
    0 1 63 0 1 64 0 1 65 0 1 66 0 1 67 1 1 69 0 1 6a 0 1 6b 0 1 6c 0 1 6d 0 1 6e 0 1 6f 0 1 70
    0 1 71 0 1 72 0 1 73 0 1 74 0 1 75 0 1 76 0 1 77 0 1 78 0 1 79 0 1 7a 0 1 41 0 1 42 0 1 43
    0 1 44 0 1 45 0 1 46 0 1 47 0 1 48 0 1 49 0 1 4a 0 1 4b 0 1 4c 0 1 4d 0 1 4e 0 1 4f 0 1 50
    0 1 51 0 1 52 0 1 53 0 1 54 0 1 55 0 1 56 0 1 57 0 1 58 0 1 59 0 1 5a 0 1 61 0 1 62 0 1 63
    0 1 64 0 1 65 0 1 66 0 1 67 0 1 68 0 1 69 0 1 6a 0 1 6b 0 1 6c 0 1 6d 0 1 6e 0 1 6f 0 1 70
    0 1 71 0 1 72 0 1 73 0 1 74 0 1 75 0 1 76 0 1 77 0 1 78 0 1 79 0 1 7a 0 1 41 1 1 43 0 1 44
    2 1 47 2 1 4a 0 1 4b 2 1 4e 0 1 4f 0 1 50 0 1 51 1 1 53 0 1 54 0 1 55 0 1 56 0 1 57 0 1 58
    0 1 59 0 1 5a 0 1 61 0 1 62 0 1 63 0 1 64 1 1 66 1 1 68 0 1 69 0 1 6a 0 1 6b 0 1 6c 0 1 6d
    0 1 6e 1 1 70 0 1 71 0 1 72 0 1 73 0 1 74 0 1 75 0 1 76 0 1 77 0 1 78 0 1 79 0 1 7a 0 1 41
    0 1 42 0 1 43 0 1 44 0 1 45 0 1 46 0 1 47 0 1 48 0 1 49 0 1 4a 0 1 4b 0 1 4c 0 1 4d 0 1 4e
    0 1 4f 0 1 50 0 1 51 0 1 52 0 1 53 0 1 54 0 1 55 0 1 56 0 1 57 0 1 58 0 1 59 0 1 5a 0 1 61
    0 1 62 0 1 63 0 1 64 0 1 65 0 1 66 0 1 67 0 1 68 0 1 69 0 1 6a 0 1 6b 0 1 6c 0 1 6d 0 1 6e
    0 1 6f 0 1 70 0 1 71 0 1 72 0 1 73 0 1 74 0 1 75 0 1 76 0 1 77 0 1 78 0 1 79 0 1 7a 0 1 41
    0 1 42 1 1 44 0 1 45 0 1 46 0 1 47 2 1 4a 0 1 4b 0 1 4c 0 1 4d 0 1 4e 0 1 4f 0 1 50 0 1 51
    1 1 53 0 1 54 0 1 55 0 1 56 0 1 57 0 1 58 0 1 59 1 1 61 0 1 62 0 1 63 0 1 64 0 1 65 0 1 66
    0 1 67 0 1 68 0 1 69 0 1 6a 0 1 6b 0 1 6c 0 1 6d 0 1 6e 0 1 6f 0 1 70 0 1 71 0 1 72 0 1 73
    0 1 74 0 1 75 0 1 76 0 1 77 0 1 78 0 1 79 0 1 7a 0 1 41 0 1 42 1 1 44 0 1 45 0 1 46 0 1 47
    1 1 49 0 1 4a 0 1 4b 0 1 4c 0 1 4d 1 1 4f 3 1 53 0 1 54 0 1 55 0 1 56 0 1 57 0 1 58 0 1 59
    1 1 61 0 1 62 0 1 63 0 1 64 0 1 65 0 1 66 0 1 67 0 1 68 0 1 69 0 1 6a 0 1 6b 0 1 6c 0 1 6d
    0 1 6e 0 1 6f 0 1 70 0 1 71 0 1 72 0 1 73 0 1 74 0 1 75 0 1 76 0 1 77 0 1 78 0 1 79 0 1 7a
    0 1 41 0 1 42 0 1 43 0 1 44 0 1 45 0 1 46 0 1 47 0 1 48 0 1 49 0 1 4a 0 1 4b 0 1 4c 0 1 4d
    0 1 4e 0 1 4f 0 1 50 0 1 51 0 1 52 0 1 53 0 1 54 0 1 55 0 1 56 0 1 57 0 1 58 0 1 59 0 1 5a
    0 1 61 0 1 62 0 1 63 0 1 64 0 1 65 0 1 66 0 1 67 0 1 68 0 1 69 0 1 6a 0 1 6b 0 1 6c 0 1 6d
    0 1 6e 0 1 6f 0 1 70 0 1 71 0 1 72 0 1 73 0 1 74 0 1 75 0 1 76 0 1 77 0 1 78 0 1 79 0 1 7a
    0 1 41 0 1 42 0 1 43 0 1 44 0 1 45 0 1 46 0 1 47 0 1 48 0 1 49 0 1 4a 0 1 4b 0 1 4c 0 1 4d
    0 1 4e 0 1 4f 0 1 50 0 1 51 0 1 52 0 1 53 0 1 54 0 1 55 0 1 56 0 1 57 0 1 58 0 1 59 0 1 5a
    0 1 61 0 1 62 0 1 63 0 1 64 0 1 65 0 1 66 0 1 67 0 1 68 0 1 69 0 1 6a 0 1 6b 0 1 6c 0 1 6d
    0 1 6e 0 1 6f 0 1 70 0 1 71 0 1 72 0 1 73 0 1 74 0 1 75 0 1 76 0 1 77 0 1 78 0 1 79 0 1 7a
    0 1 41 0 1 42 0 1 43 0 1 44 0 1 45 0 1 46 0 1 47 0 1 48 0 1 49 0 1 4a 0 1 4b 0 1 4c 0 1 4d
    0 1 4e 0 1 4f 0 1 50 0 1 51 0 1 52 0 1 53 0 1 54 0 1 55 0 1 56 0 1 57 0 1 58 0 1 59 0 1 5a
    0 1 61 0 1 62 0 1 63 0 1 64 0 1 65 0 1 66 0 1 67 0 1 68 0 1 69 0 1 6a 0 1 6b 0 1 6c 0 1 6d
    0 1 6e 0 1 6f 0 1 70 0 1 71 0 1 72 0 1 73 0 1 74 0 1 75 0 1 76 0 1 77 0 1 78 0 1 79 0 1 7a
    0 1 41 0 1 42 0 1 43 0 1 44 0 1 45 0 1 46 0 1 47 0 1 48 0 1 49 0 1 4a 0 1 4b 0 1 4c 0 1 4d
    0 1 4e 0 1 4f 0 1 50 0 1 51 0 1 52 0 1 53 0 1 54 0 1 55 0 1 56 0 1 57 0 1 58 0 1 59 0 1 5a
    0 1 61 0 1 62 0 1 63 0 1 64 0 1 65 0 1 66 0 1 67 0 1 68 0 1 69 0 1 6a 0 1 6b 0 1 6c 0 1 6d
    0 1 6e 0 1 6f 0 1 70 0 1 71 0 1 72 0 1 73 0 1 74 0 1 75 0 1 76 0 1 77 0 1 78 0 1 79 0 1 7a
    0 1 41 0 1 42 0 1 43 0 1 44 0 1 45 0 1 46 0 1 47 0 1 48 0 1 49 0 1 4a 0 1 4b 0 1 4c 0 1 4d
    0 1 4e 0 1 4f 0 1 50 0 1 51 0 1 52 0 1 53 0 1 54 0 1 55 0 1 56 0 1 57 0 1 58 0 1 59 0 1 5a
    0 1 61 0 1 62 0 1 63 0 1 64 0 1 65 0 1 66 0 1 67 0 1 68 0 1 69 0 1 6a 0 1 6b 0 1 6c 0 1 6d
    0 1 6e 0 1 6f 0 1 70 0 1 71 0 1 72 0 1 73 0 1 74 0 1 75 0 1 76 0 1 77 0 1 78 0 1 79 0 1 7a
    0 1 41 0 1 42 0 1 43 0 1 44 0 1 45 0 1 46 0 1 47 0 1 48 0 1 49 0 1 4a 0 1 4b 0 1 4c 0 1 4d
    0 1 4e 0 1 4f 0 1 50 0 1 51 0 1 52 0 1 53 0 1 54 0 1 55 0 1 56 0 1 57 0 1 58 0 1 59 0 1 5a
    0 1 61 0 1 62 0 1 63 0 1 64 0 1 65 0 1 66 0 1 67 0 1 68 0 1 69 0 1 6a 0 1 6b 0 1 6c 0 1 6d
    0 1 6e 0 1 6f 0 1 70 0 1 71 0 1 72 0 1 73 0 1 74 0 1 75 0 1 76 0 1 77 0 1 78 0 1 79 0 1 7a
    0 1 131 0 1 237 2 1 391 0 1 392 0 1 393 0 1 394 0 1 395 0 1 396 0 1 397 0 1 398 0 1 399 0
    1 39a 0 1 39b 0 1 39c 0 1 39d 0 1 39e 0 1 39f 0 1 3a0 0 1 3a1 0 1 398 0 1 3a3 0 1 3a4 0 1
    3a5 0 1 3a6 0 1 3a7 0 1 3a8 0 1 3a9 1 1 3b1 0 1 3b2 0 1 3b3 0 1 3b4 0 1 3b5 0 1 3b6 0 1
    3b7 0 1 3b8 0 1 3b9 0 1 3ba 0 1 3bb 0 1 3bc 0 1 3bd 0 1 3be 0 1 3bf 0 1 3c0 0 1 3c1 0 1
    3c2 0 1 3c3 0 1 3c4 0 1 3c5 0 1 3c6 0 1 3c7 0 1 3c8 0 1 3c9 1 1 3b5 0 1 3b8 0 1 3ba 0 1
    3c6 0 1 3c1 0 1 3c0 0 1 391 0 1 392 0 1 393 0 1 394 0 1 395 0 1 396 0 1 397 0 1 398 0 1
    399 0 1 39a 0 1 39b 0 1 39c 0 1 39d 0 1 39e 0 1 39f 0 1 3a0 0 1 3a1 0 1 398 0 1 3a3 0 1
    3a4 0 1 3a5 0 1 3a6 0 1 3a7 0 1 3a8 0 1 3a9 1 1 3b1 0 1 3b2 0 1 3b3 0 1 3b4 0 1 3b5 0 1
    3b6 0 1 3b7 0 1 3b8 0 1 3b9 0 1 3ba 0 1 3bb 0 1 3bc 0 1 3bd 0 1 3be 0 1 3bf 0 1 3c0 0 1
    3c1 0 1 3c2 0 1 3c3 0 1 3c4 0 1 3c5 0 1 3c6 0 1 3c7 0 1 3c8 0 1 3c9 1 1 3b5 0 1 3b8 0 1
    3ba 0 1 3c6 0 1 3c1 0 1 3c0 0 1 391 0 1 392 0 1 393 0 1 394 0 1 395 0 1 396 0 1 397 0 1
    398 0 1 399 0 1 39a 0 1 39b 0 1 39c 0 1 39d 0 1 39e 0 1 39f 0 1 3a0 0 1 3a1 0 1 398 0 1
    3a3 0 1 3a4 0 1 3a5 0 1 3a6 0 1 3a7 0 1 3a8 0 1 3a9 1 1 3b1 0 1 3b2 0 1 3b3 0 1 3b4 0 1
    3b5 0 1 3b6 0 1 3b7 0 1 3b8 0 1 3b9 0 1 3ba 0 1 3bb 0 1 3bc 0 1 3bd 0 1 3be 0 1 3bf 0 1
    3c0 0 1 3c1 0 1 3c2 0 1 3c3 0 1 3c4 0 1 3c5 0 1 3c6 0 1 3c7 0 1 3c8 0 1 3c9 1 1 3b5 0 1
    3b8 0 1 3ba 0 1 3c6 0 1 3c1 0 1 3c0 0 1 391 0 1 392 0 1 393 0 1 394 0 1 395 0 1 396 0 1
    397 0 1 398 0 1 399 0 1 39a 0 1 39b 0 1 39c 0 1 39d 0 1 39e 0 1 39f 0 1 3a0 0 1 3a1 0 1
    398 0 1 3a3 0 1 3a4 0 1 3a5 0 1 3a6 0 1 3a7 0 1 3a8 0 1 3a9 1 1 3b1 0 1 3b2 0 1 3b3 0 1
    3b4 0 1 3b5 0 1 3b6 0 1 3b7 0 1 3b8 0 1 3b9 0 1 3ba 0 1 3bb 0 1 3bc 0 1 3bd 0 1 3be 0 1
    3bf 0 1 3c0 0 1 3c1 0 1 3c2 0 1 3c3 0 1 3c4 0 1 3c5 0 1 3c6 0 1 3c7 0 1 3c8 0 1 3c9 1 1
    3b5 0 1 3b8 0 1 3ba 0 1 3c6 0 1 3c1 0 1 3c0 0 1 391 0 1 392 0 1 393 0 1 394 0 1 395 0 1
    396 0 1 397 0 1 398 0 1 399 0 1 39a 0 1 39b 0 1 39c 0 1 39d 0 1 39e 0 1 39f 0 1 3a0 0 1
    3a1 0 1 398 0 1 3a3 0 1 3a4 0 1 3a5 0 1 3a6 0 1 3a7 0 1 3a8 0 1 3a9 1 1 3b1 0 1 3b2 0 1
    3b3 0 1 3b4 0 1 3b5 0 1 3b6 0 1 3b7 0 1 3b8 0 1 3b9 0 1 3ba 0 1 3bb 0 1 3bc 0 1 3bd 0 1
    3be 0 1 3bf 0 1 3c0 0 1 3c1 0 1 3c2 0 1 3c3 0 1 3c4 0 1 3c5 0 1 3c6 0 1 3c7 0 1 3c8 0 1
    3c9 1 1 3b5 0 1 3b8 0 1 3ba 0 1 3c6 0 1 3c1 0 1 3c0 0 1 3dc 0 1 3dd 2 1 30 0 1 31 0 1 32 0
    1 33 0 1 34 0 1 35 0 1 36 0 1 37 0 1 38 0 1 39 0 1 30 0 1 31 0 1 32 0 1 33 0 1 34 0 1 35 0
    1 36 0 1 37 0 1 38 0 1 39 0 1 30 0 1 31 0 1 32 0 1 33 0 1 34 0 1 35 0 1 36 0 1 37 0 1 38 0
    1 39 0 1 30 0 1 31 0 1 32 0 1 33 0 1 34 0 1 35 0 1 36 0 1 37 0 1 38 0 1 39 0 1 30 0 1 31 0
    1 32 0 1 33 0 1 34 0 1 35 0 1 36 0 1 37 0 1 38 0 1 39 1600 1 627 0 1 628 0 1 62c 0 1 62f 1
    1 648 0 1 632 0 1 62d 0 1 637 0 1 64a 0 1 643 0 1 644 0 1 645 0 1 646 0 1 633 0 1 639 0 1
    641 0 1 635 0 1 642 0 1 631 0 1 634 0 1 62a 0 1 62b 0 1 62e 0 1 630 0 1 636 0 1 638 0 1
    63a 0 1 66e 0 1 6ba 0 1 6a1 0 1 66f 1 1 628 0 1 62c 1 1 647 2 1 62d 1 1 64a 0 1 643 0 1
    644 0 1 645 0 1 646 0 1 633 0 1 639 0 1 641 0 1 635 0 1 642 1 1 634 0 1 62a 0 1 62b 0 1
    62e 1 1 636 1 1 63a 6 1 62c 4 1 62d 1 1 64a 1 1 644 1 1 646 0 1 633 0 1 639 1 1 635 0 1
    642 1 1 634 2 1 62e 1 1 636 1 1 63a 1 1 6ba 1 1 66f 1 1 628 0 1 62c 1 1 647 2 1 62d 0 1
    637 0 1 64a 0 1 643 1 1 645 0 1 646 0 1 633 0 1 639 0 1 641 0 1 635 0 1 642 1 1 634 0 1
    62a 0 1 62b 0 1 62e 1 1 636 0 1 638 0 1 63a 0 1 66e 1 1 6a1 1 1 627 0 1 628 0 1 62c 0 1
    62f 0 1 647 0 1 648 0 1 632 0 1 62d 0 1 637 0 1 64a 1 1 644 0 1 645 0 1 646 0 1 633 0 1
    639 0 1 641 0 1 635 0 1 642 0 1 631 0 1 634 0 1 62a 0 1 62b 0 1 62e 0 1 630 0 1 636 0 1
    638 0 1 63a 5 1 628 0 1 62c 0 1 62f 1 1 648 0 1 632 0 1 62d 0 1 637 0 1 64a 1 1 644 0 1
    645 0 1 646 0 1 633 0 1 639 0 1 641 0 1 635 0 1 642 0 1 631 0 1 634 0 1 62a 0 1 62b 0 1
    62e 0 1 630 0 1 636 0 1 638 0 1 63a d34 1 30 0 1 31 0 1 32 0 1 33 0 1 34 0 1 35 0 1 36 0 1
    37 0 1 38 0 1 39 fc06 1 4e3d 0 1 4e38 0 1 4e41 0 1 20122 0 1 4f60 0 1 4fae 0 1 4fbb 0 1
    5002 0 1 507a 0 1 5099 0 1 50e7 0 1 50cf 0 1 349e 0 1 2063a 0 1 514d 0 1 5154 0 1 5164 0 1
    5177 0 1 2051c 0 1 34b9 0 1 5167 0 1 518d 0 1 2054b 0 1 5197 0 1 51a4 0 1 4ecc 0 1 51ac 0
    1 51b5 0 1 291df 0 1 51f5 0 1 5203 0 1 34df 0 1 523b 0 1 5246 0 1 5272 0 1 5277 0 1 3515 0
    1 52c7 0 1 52c9 0 1 52e4 0 1 52fa 0 1 5305 0 1 5306 0 1 5317 0 1 5349 0 1 5351 0 1 535a 0
    1 5373 0 1 537d 0 1 537f 0 1 537f 0 1 537f 0 1 20a2c 0 1 7070 0 1 53ca 0 1 53df 0 1 20b63
    0 1 53eb 0 1 53f1 0 1 5406 0 1 549e 0 1 5438 0 1 5448 0 1 5468 0 1 54a2 0 1 54f6 0 1 5510
    0 1 5553 0 1 5563 0 1 5584 0 1 5584 0 1 5599 0 1 55ab 0 1 55b3 0 1 55c2 0 1 5716 0 1 5606
    0 1 5717 0 1 5651 0 1 5674 0 1 5207 0 1 58ee 0 1 57ce 0 1 57f4 0 1 580d 0 1 578b 0 1 5832
    0 1 5831 0 1 58ac 0 1 214e4 0 1 58f2 0 1 58f7 0 1 5906 0 1 591a 0 1 5922 0 1 5962 0 1
    216a8 0 1 216ea 0 1 59ec 0 1 5a1b 0 1 5a27 0 1 59d8 0 1 5a66 0 1 36ee 0 1 36fc 0 1 5b08 0
    1 5b3e 0 1 5b3e 0 1 219c8 0 1 5bc3 0 1 5bd8 0 1 5be7 0 1 5bf3 0 1 21b18 0 1 5bff 0 1 5c06
    0 1 5f53 0 1 5c22 0 1 3781 0 1 5c60 0 1 5c6e 0 1 5cc0 0 1 5c8d 0 1 21de4 0 1 5d43 0 1
    21de6 0 1 5d6e 0 1 5d6b 0 1 5d7c 0 1 5de1 0 1 5de2 0 1 382f 0 1 5dfd 0 1 5e28 0 1 5e3d 0 1
    5e69 0 1 3862 0 1 22183 0 1 387c 0 1 5eb0 0 1 5eb3 0 1 5eb6 0 1 5eca 0 1 2a392 0 1 5efe 0
    1 22331 0 1 22331 0 1 8201 0 1 5f22 0 1 5f22 0 1 38c7 0 1 232b8 0 1 261da 0 1 5f62 0 1
    5f6b 0 1 38e3 0 1 5f9a 0 1 5fcd 0 1 5fd7 0 1 5ff9 0 1 6081 0 1 393a 0 1 391c 0 1 6094 0 1
    226d4 0 1 60c7 0 1 6148 0 1 614c 0 1 614e 0 1 614c 0 1 617a 0 1 618e 0 1 61b2 0 1 61a4 0 1
    61af 0 1 61de 0 1 61f2 0 1 61f6 0 1 6210 0 1 621b 0 1 625d 0 1 62b1 0 1 62d4 0 1 6350 0 1
    22b0c 0 1 633d 0 1 62fc 0 1 6368 0 1 6383 0 1 63e4 0 1 22bf1 0 1 6422 0 1 63c5 0 1 63a9 0
    1 3a2e 0 1 6469 0 1 647e 0 1 649d 0 1 6477 0 1 3a6c 0 1 654f 0 1 656c 0 1 2300a 0 1 65e3 0
    1 66f8 0 1 6649 0 1 3b19 0 1 6691 0 1 3b08 0 1 3ae4 0 1 5192 0 1 5195 0 1 6700 0 1 669c 0
    1 80ad 0 1 43d9 0 1 6717 0 1 671b 0 1 6721 0 1 675e 0 1 6753 0 1 233c3 0 1 3b49 0 1 67fa 0
    1 6785 0 1 6852 0 1 6885 0 1 2346d 0 1 688e 0 1 681f 0 1 6914 0 1 3b9d 0 1 6942 0 1 69a3 0
    1 69ea 0 1 6aa8 0 1 236a3 0 1 6adb 0 1 3c18 0 1 6b21 0 1 238a7 0 1 6b54 0 1 3c4e 0 1 6b72
    0 1 6b9f 0 1 6bba 0 1 6bbb 0 1 23a8d 0 1 21d0b 0 1 23afa 0 1 6c4e 0 1 23cbc 0 1 6cbf 0 1
    6ccd 0 1 6c67 0 1 6d16 0 1 6d3e 0 1 6d77 0 1 6d41 0 1 6d69 0 1 6d78 0 1 6d85 0 1 23d1e 0 1
    6d34 0 1 6e2f 0 1 6e6e 0 1 3d33 0 1 6ecb 0 1 6ec7 0 1 23ed1 0 1 6df9 0 1 6f6e 0 1 23f5e 0
    1 23f8e 0 1 6fc6 0 1 7039 0 1 701e 0 1 701b 0 1 3d96 0 1 704a 0 1 707d 0 1 7077 0 1 70ad 0
    1 20525 0 1 7145 0 1 24263 0 1 719c 0 1 243ab 0 1 7228 0 1 7235 0 1 7250 0 1 24608 0 1
    7280 0 1 7295 0 1 24735 0 1 24814 0 1 737a 0 1 738b 0 1 3eac 0 1 73a5 0 1 3eb8 0 1 3eb8 0
    1 7447 0 1 745c 0 1 7471 0 1 7485 0 1 74ca 0 1 3f1b 0 1 7524 0 1 24c36 0 1 753e 0 1 24c92
    0 1 7570 0 1 2219f 0 1 7610 0 1 24fa1 0 1 24fb8 0 1 25044 0 1 3ffc 0 1 4008 0 1 76f4 0 1
    250f3 0 1 250f2 0 1 25119 0 1 25133 0 1 771e 0 1 771f 0 1 771f 0 1 774a 0 1 4039 0 1 778b
    0 1 4046 0 1 4096 0 1 2541d 0 1 784e 0 1 788c 0 1 78cc 0 1 40e3 0 1 25626 0 1 7956 0 1
    2569a 0 1 256c5 0 1 798f 0 1 79eb 0 1 412f 0 1 7a40 0 1 7a4a 0 1 7a4f 0 1 2597c 0 1 25aa7
    0 1 25aa7 0 1 7aee 0 1 4202 0 1 25bab 0 1 7bc6 0 1 7bc9 0 1 4227 0 1 25c80 0 1 7cd2 0 1
    42a0 0 1 7ce8 0 1 7ce3 0 1 7d00 0 1 25f86 0 1 7d63 0 1 4301 0 1 7dc7 0 1 7e02 0 1 7e45 0 1
    4334 0 1 26228 0 1 26247 0 1 4359 0 1 262d9 0 1 7f7a 0 1 2633e 0 1 7f95 0 1 7ffa 0 1 8005
    0 1 264da 0 1 26523 0 1 8060 0 1 265a8 0 1 8070 0 1 2335f 0 1 43d5 0 1 80b2 0 1 8103 0 1
    440b 0 1 813e 0 1 5ab5 0 1 267a7 0 1 267b5 0 1 23393 0 1 2339c 0 1 8201 0 1 8204 0 1 8f9e
    0 1 446b 0 1 8291 0 1 828b 0 1 829d 0 1 52b3 0 1 82b1 0 1 82b3 0 1 82bd 0 1 82e6 0 1 26b3c
    0 1 82e5 0 1 831d 0 1 8363 0 1 83ad 0 1 8323 0 1 83bd 0 1 83e7 0 1 8457 0 1 8353 0 1 83ca
    0 1 83cc 0 1 83dc 0 1 26c36 0 1 26d6b 0 1 26cd5 0 1 452b 0 1 84f1 0 1 84f3 0 1 8516 0 1
    273ca 0 1 8564 0 1 26f2c 0 1 455d 0 1 4561 0 1 26fb1 0 1 270d2 0 1 456b 0 1 8650 0 1 865c
    0 1 8667 0 1 8669 0 1 86a9 0 1 8688 0 1 870e 0 1 86e2 0 1 8779 0 1 8728 0 1 876b 0 1 8786
    0 1 45d7 0 1 87e1 0 1 8801 0 1 45f9 0 1 8860 0 1 8863 0 1 27667 0 1 88d7 0 1 88de 0 1 4635
    0 1 88fa 0 1 34bb 0 1 278ae 0 1 27966 0 1 46be 0 1 46c7 0 1 8aa0 0 1 8aed 0 1 8b8a 0 1
    8c55 0 1 27ca8 0 1 8cab 0 1 8cc1 0 1 8d1b 0 1 8d77 0 1 27f2f 0 1 20804 0 1 8dcb 0 1 8dbc 0
    1 8df0 0 1 208de 0 1 8ed4 0 1 8f38 0 1 285d2 0 1 285ed 0 1 9094 0 1 90f1 0 1 9111 0 1
    2872e 0 1 911b 0 1 9238 0 1 92d7 0 1 92d8 0 1 927c 0 1 93f9 0 1 9415 0 1 28bfa 0 1 958b 0
    1 4995 0 1 95b7 0 1 28d77 0 1 49e6 0 1 96c3 0 1 5db2 0 1 9723 0 1 29145 0 1 2921a 0 1 4a6e
    0 1 4a76 0 1 97e0 0 1 2940a 0 1 4ab2 0 1 29496 0 1 980b 0 1 980b 0 1 9829 0 1 295b6 0 1
    98e2 0 1 4b33 0 1 9929 0 1 99a7 0 1 99c2 0 1 99fe 0 1 4bce 0 1 29b30 0 1 9b12 0 1 9c40 0 1
    9cfd 0 1 4cce 0 1 4ced 0 1 9d67 0 1 2a0ce 0 1 4cf8 0 1 2a105 0 1 2a20e 0 1 2a291 0 1 9ebb
    0 1 4d56 0 1 9ef9 0 1 9efe 0 1 9f05 0 1 9f0f 0 1 9f16 0 1 9f3b 0 1 2a600"

/-- Combining classes other than zero: gap, length and class of each range. -/
def classTable : String :=
    "300 15 e6 0 1 e8 0 4 dc 0 1 e8 0 1 d8 0 5 dc 0 2 ca 0 4 dc 0 2 ca 0 b dc 0 5 1 0 4 dc 0 8
    e6 0 1 f0 0 1 e6 0 3 dc 0 3 e6 0 2 dc 1 3 e6 0 4 dc 0 1 e6 0 1 e8 0 2 dc 0 1 e6 0 1 e9 0 2
    ea 0 1 e9 0 2 ea 0 1 e9 0 d e6 113 5 e6 109 1 dc 0 4 e6 0 1 dc 0 3 e6 0 1 de 0 1 dc 0 6 e6
    0 6 dc 0 2 e6 0 1 dc 0 2 e6 0 1 de 0 1 e4 0 1 e6 0 1 a 0 1 b 0 1 c 0 1 d 0 1 e 0 1 f 0 1
    10 0 1 11 0 1 12 0 2 13 0 1 14 0 1 15 0 1 16 1 1 17 1 1 18 0 1 19 1 1 e6 0 1 dc 1 1 12 48
    8 e6 0 1 1e 0 1 1f 0 1 20 30 1 1b 0 1 1c 0 1 1d 0 1 1e 0 1 1f 0 1 20 0 1 21 0 1 22 0 2 e6
    0 2 dc 0 5 e6 0 1 dc 0 2 e6 0 1 dc 10 1 23 65 7 e6 2 4 e6 0 1 dc 0 1 e6 2 2 e6 1 1 dc 0 2
    e6 0 1 dc 23 1 24 1e 1 e6 0 1 dc 0 2 e6 0 1 dc 0 2 e6 0 3 dc 0 1 e6 0 2 dc 0 1 e6 0 1 dc 0
    3 e6 0 1 dc 0 1 e6 0 1 dc 0 1 e6 0 1 dc 0 1 e6 0 1 dc 0 2 e6 a0 7 e6 0 1 dc 0 1 e6 9 1 dc
    18 4 e6 1 9 e6 1 3 e6 1 5 e6 2b 3 dc 3c 1 e6 0 3 dc 0 4 e6 2a 5 e6 0 5 dc 0 e e6 1 1 dc 0
    2 e6 0 1 dc 0 2 e6 0 1 dc 0 3 e6 0 3 dc 0 1 1b 0 1 1c 0 1 1d 0 3 e6 0 1 dc 0 2 e6 0 2 dc 0
    5 e6 3c 1 7 10 1 9 3 1 e6 0 1 dc 0 2 e6 67 1 7 10 1 9 30 1 e6 3d 1 7 10 1 9 6e 1 7 10 1 9
    6e 1 7 10 1 9 7f 1 9 6e 1 7 10 1 9 7 1 54 0 1 5b 65 1 7 10 1 9 6d 2 9 10 1 9 7c 1 9 6d 2
    67 0 1 9 d 4 6b 6c 2 76 0 1 9 d 4 7a 4c 2 dc 1b 1 dc 1 1 dc 1 1 d8 37 1 81 0 1 82 1 1 84 5
    4 82 2 1 82 1 2 e6 0 1 9 1 2 e6 3e 1 dc 70 1 7 1 2 9 52 1 dc 2cf 3 e6 3b4 2 9 1e 1 9 9d 1
    9 a 1 e6 cb 1 e4 8f 1 de 0 1 e6 0 1 dc db 1 e6 0 1 dc 47 1 9 14 8 e6 2 1 dc 30 5 e6 0 6 dc
    0 2 e6 0 1 dc 1 2 dc 0 2 e6 0 2 dc 0 5 e6 0 1 dc 0 4 e6 65 1 7 f 1 9 26 1 e6 0 1 dc 0 7 e6
    36 2 9 3a 1 7 b 2 9 43 1 7 98 3 e6 1 1 1 0 5 dc 0 2 e6 0 4 dc 0 1 e6 1 7 1 4 1 dc 6 1 e6 3
    2 e6 c6 2 e6 0 1 dc 0 7 e6 0 1 dc 0 2 e6 0 1 ea 0 1 d6 0 1 dc 0 1 ca 0 25 e6 0 1 e8 0 2 e4
    0 1 dc 0 1 da 0 1 e6 0 1 e9 0 1 dc 0 1 e6 0 1 dc 2d0 2 e6 0 2 1 0 4 e6 0 3 1 0 2 e6 4 1 e6
    3 2 1 0 1 e6 0 1 dc 0 1 e6 0 2 1 0 4 dc 0 1 e6 bfe 3 e6 8d 1 9 60 20 e6 22a 1 da 0 1 e4 0
    1 e8 0 1 de 0 2 e0 69 2 8 75d4 1 e6 4 a e6 20 2 e6 50 2 e6 114 1 9 25 1 9 97 1 9 1b 12 e6
    39 3 dc 25 1 9 5f 1 7 c 1 9 ef 1 e6 1 2 e6 0 1 dc 2 2 e6 5 2 e6 1 1 e6 34 1 9 f6 1 9 4f30
    1 1a 301 7 e6 0 7 dc 0 2 e6 3cd 1 dc e2 1 dc 95 5 e6 692 1 dc 1 1 e6 28 1 e6 0 1 1 0 1 dc
    4 1 9 a5 1 e6 0 1 dc 23d 4 e6 183 2 e6 99 2 dc 0 3 e6 0 1 dc 0 1 e6 0 4 dc 31 1 e6 0 1 dc
    0 1 e6 0 1 dc c0 1 9 29 1 9 e 1 9 39 1 9 0 1 7 45 3 e6 30 2 9 3e 1 7 4c 1 9 9 1 7 6a 1 9 0
    1 7 b2 1 7 0 1 9 50 2 7 10 1 9 18 7 e6 3 5 e6 cd 1 9 3 1 7 17 1 e6 63 1 9 0 1 7 fb 1 9 0 1
    7 7e 1 9 76 1 9 0 1 7 73 1 9 10d 1 9 0 1 7 102 2 9 4 1 7 9c 1 9 53 1 9 12 1 9 51 1 9 1a5 1
    9 102 1 7 1 2 9 51 1 9 4d58 5 1 3b 7 e6 4b9 2 6 4cac 1 1 14c6 2 d8 0 3 1 3 1 e2 0 5 d8 8 8
    dc 2 5 e6 0 2 dc 1e 4 e6 94 3 e6 dbb 7 e6 1 11 e6 2 7 e6 1 2 e6 1 5 e6 105 7 e6 177 1 e6
    3d 4 e6 5e0 7 dc 6d 6 e6 0 1 7"

/-- Pairs that compose, each followed by the composed character, in rising order. -/
def compositionTable : String :=
    "3c 338 226e 3d 338 2260 3e 338 226f 41 300 c0 41 301 c1 41 302 c2 41 303 c3 41 304 100 41
    306 102 41 307 226 41 308 c4 41 309 1ea2 41 30a c5 41 30c 1cd 41 30f 200 41 311 202 41 323
    1ea0 41 325 1e00 41 328 104 42 307 1e02 42 323 1e04 42 331 1e06 43 301 106 43 302 108 43
    307 10a 43 30c 10c 43 327 c7 44 307 1e0a 44 30c 10e 44 323 1e0c 44 327 1e10 44 32d 1e12 44
    331 1e0e 45 300 c8 45 301 c9 45 302 ca 45 303 1ebc 45 304 112 45 306 114 45 307 116 45 308
    cb 45 309 1eba 45 30c 11a 45 30f 204 45 311 206 45 323 1eb8 45 327 228 45 328 118 45 32d
    1e18 45 330 1e1a 46 307 1e1e 47 301 1f4 47 302 11c 47 304 1e20 47 306 11e 47 307 120 47
    30c 1e6 47 327 122 48 302 124 48 307 1e22 48 308 1e26 48 30c 21e 48 323 1e24 48 327 1e28
    48 32e 1e2a 49 300 cc 49 301 cd 49 302 ce 49 303 128 49 304 12a 49 306 12c 49 307 130 49
    308 cf 49 309 1ec8 49 30c 1cf 49 30f 208 49 311 20a 49 323 1eca 49 328 12e 49 330 1e2c 4a
    302 134 4b 301 1e30 4b 30c 1e8 4b 323 1e32 4b 327 136 4b 331 1e34 4c 301 139 4c 30c 13d 4c
    323 1e36 4c 327 13b 4c 32d 1e3c 4c 331 1e3a 4d 301 1e3e 4d 307 1e40 4d 323 1e42 4e 300 1f8
    4e 301 143 4e 303 d1 4e 307 1e44 4e 30c 147 4e 323 1e46 4e 327 145 4e 32d 1e4a 4e 331 1e48
    4f 300 d2 4f 301 d3 4f 302 d4 4f 303 d5 4f 304 14c 4f 306 14e 4f 307 22e 4f 308 d6 4f 309
    1ece 4f 30b 150 4f 30c 1d1 4f 30f 20c 4f 311 20e 4f 31b 1a0 4f 323 1ecc 4f 328 1ea 50 301
    1e54 50 307 1e56 52 301 154 52 307 1e58 52 30c 158 52 30f 210 52 311 212 52 323 1e5a 52
    327 156 52 331 1e5e 53 301 15a 53 302 15c 53 307 1e60 53 30c 160 53 323 1e62 53 326 218 53
    327 15e 54 307 1e6a 54 30c 164 54 323 1e6c 54 326 21a 54 327 162 54 32d 1e70 54 331 1e6e
    55 300 d9 55 301 da 55 302 db 55 303 168 55 304 16a 55 306 16c 55 308 dc 55 309 1ee6 55
    30a 16e 55 30b 170 55 30c 1d3 55 30f 214 55 311 216 55 31b 1af 55 323 1ee4 55 324 1e72 55
    328 172 55 32d 1e76 55 330 1e74 56 303 1e7c 56 323 1e7e 57 300 1e80 57 301 1e82 57 302 174
    57 307 1e86 57 308 1e84 57 323 1e88 58 307 1e8a 58 308 1e8c 59 300 1ef2 59 301 dd 59 302
    176 59 303 1ef8 59 304 232 59 307 1e8e 59 308 178 59 309 1ef6 59 323 1ef4 5a 301 179 5a
    302 1e90 5a 307 17b 5a 30c 17d 5a 323 1e92 5a 331 1e94 61 300 e0 61 301 e1 61 302 e2 61
    303 e3 61 304 101 61 306 103 61 307 227 61 308 e4 61 309 1ea3 61 30a e5 61 30c 1ce 61 30f
    201 61 311 203 61 323 1ea1 61 325 1e01 61 328 105 62 307 1e03 62 323 1e05 62 331 1e07 63
    301 107 63 302 109 63 307 10b 63 30c 10d 63 327 e7 64 307 1e0b 64 30c 10f 64 323 1e0d 64
    327 1e11 64 32d 1e13 64 331 1e0f 65 300 e8 65 301 e9 65 302 ea 65 303 1ebd 65 304 113 65
    306 115 65 307 117 65 308 eb 65 309 1ebb 65 30c 11b 65 30f 205 65 311 207 65 323 1eb9 65
    327 229 65 328 119 65 32d 1e19 65 330 1e1b 66 307 1e1f 67 301 1f5 67 302 11d 67 304 1e21
    67 306 11f 67 307 121 67 30c 1e7 67 327 123 68 302 125 68 307 1e23 68 308 1e27 68 30c 21f
    68 323 1e25 68 327 1e29 68 32e 1e2b 68 331 1e96 69 300 ec 69 301 ed 69 302 ee 69 303 129
    69 304 12b 69 306 12d 69 308 ef 69 309 1ec9 69 30c 1d0 69 30f 209 69 311 20b 69 323 1ecb
    69 328 12f 69 330 1e2d 6a 302 135 6a 30c 1f0 6b 301 1e31 6b 30c 1e9 6b 323 1e33 6b 327 137
    6b 331 1e35 6c 301 13a 6c 30c 13e 6c 323 1e37 6c 327 13c 6c 32d 1e3d 6c 331 1e3b 6d 301
    1e3f 6d 307 1e41 6d 323 1e43 6e 300 1f9 6e 301 144 6e 303 f1 6e 307 1e45 6e 30c 148 6e 323
    1e47 6e 327 146 6e 32d 1e4b 6e 331 1e49 6f 300 f2 6f 301 f3 6f 302 f4 6f 303 f5 6f 304 14d
    6f 306 14f 6f 307 22f 6f 308 f6 6f 309 1ecf 6f 30b 151 6f 30c 1d2 6f 30f 20d 6f 311 20f 6f
    31b 1a1 6f 323 1ecd 6f 328 1eb 70 301 1e55 70 307 1e57 72 301 155 72 307 1e59 72 30c 159
    72 30f 211 72 311 213 72 323 1e5b 72 327 157 72 331 1e5f 73 301 15b 73 302 15d 73 307 1e61
    73 30c 161 73 323 1e63 73 326 219 73 327 15f 74 307 1e6b 74 308 1e97 74 30c 165 74 323
    1e6d 74 326 21b 74 327 163 74 32d 1e71 74 331 1e6f 75 300 f9 75 301 fa 75 302 fb 75 303
    169 75 304 16b 75 306 16d 75 308 fc 75 309 1ee7 75 30a 16f 75 30b 171 75 30c 1d4 75 30f
    215 75 311 217 75 31b 1b0 75 323 1ee5 75 324 1e73 75 328 173 75 32d 1e77 75 330 1e75 76
    303 1e7d 76 323 1e7f 77 300 1e81 77 301 1e83 77 302 175 77 307 1e87 77 308 1e85 77 30a
    1e98 77 323 1e89 78 307 1e8b 78 308 1e8d 79 300 1ef3 79 301 fd 79 302 177 79 303 1ef9 79
    304 233 79 307 1e8f 79 308 ff 79 309 1ef7 79 30a 1e99 79 323 1ef5 7a 301 17a 7a 302 1e91
    7a 307 17c 7a 30c 17e 7a 323 1e93 7a 331 1e95 a8 300 1fed a8 301 385 a8 342 1fc1 c2 300
    1ea6 c2 301 1ea4 c2 303 1eaa c2 309 1ea8 c4 304 1de c5 301 1fa c6 301 1fc c6 304 1e2 c7
    301 1e08 ca 300 1ec0 ca 301 1ebe ca 303 1ec4 ca 309 1ec2 cf 301 1e2e d4 300 1ed2 d4 301
    1ed0 d4 303 1ed6 d4 309 1ed4 d5 301 1e4c d5 304 22c d5 308 1e4e d6 304 22a d8 301 1fe dc
    300 1db dc 301 1d7 dc 304 1d5 dc 30c 1d9 e2 300 1ea7 e2 301 1ea5 e2 303 1eab e2 309 1ea9
    e4 304 1df e5 301 1fb e6 301 1fd e6 304 1e3 e7 301 1e09 ea 300 1ec1 ea 301 1ebf ea 303
    1ec5 ea 309 1ec3 ef 301 1e2f f4 300 1ed3 f4 301 1ed1 f4 303 1ed7 f4 309 1ed5 f5 301 1e4d
    f5 304 22d f5 308 1e4f f6 304 22b f8 301 1ff fc 300 1dc fc 301 1d8 fc 304 1d6 fc 30c 1da
    102 300 1eb0 102 301 1eae 102 303 1eb4 102 309 1eb2 103 300 1eb1 103 301 1eaf 103 303 1eb5
    103 309 1eb3 112 300 1e14 112 301 1e16 113 300 1e15 113 301 1e17 14c 300 1e50 14c 301 1e52
    14d 300 1e51 14d 301 1e53 15a 307 1e64 15b 307 1e65 160 307 1e66 161 307 1e67 168 301 1e78
    169 301 1e79 16a 308 1e7a 16b 308 1e7b 17f 307 1e9b 1a0 300 1edc 1a0 301 1eda 1a0 303 1ee0
    1a0 309 1ede 1a0 323 1ee2 1a1 300 1edd 1a1 301 1edb 1a1 303 1ee1 1a1 309 1edf 1a1 323 1ee3
    1af 300 1eea 1af 301 1ee8 1af 303 1eee 1af 309 1eec 1af 323 1ef0 1b0 300 1eeb 1b0 301 1ee9
    1b0 303 1eef 1b0 309 1eed 1b0 323 1ef1 1b7 30c 1ee 1ea 304 1ec 1eb 304 1ed 226 304 1e0 227
    304 1e1 228 306 1e1c 229 306 1e1d 22e 304 230 22f 304 231 292 30c 1ef 391 300 1fba 391 301
    386 391 304 1fb9 391 306 1fb8 391 313 1f08 391 314 1f09 391 345 1fbc 395 300 1fc8 395 301
    388 395 313 1f18 395 314 1f19 397 300 1fca 397 301 389 397 313 1f28 397 314 1f29 397 345
    1fcc 399 300 1fda 399 301 38a 399 304 1fd9 399 306 1fd8 399 308 3aa 399 313 1f38 399 314
    1f39 39f 300 1ff8 39f 301 38c 39f 313 1f48 39f 314 1f49 3a1 314 1fec 3a5 300 1fea 3a5 301
    38e 3a5 304 1fe9 3a5 306 1fe8 3a5 308 3ab 3a5 314 1f59 3a9 300 1ffa 3a9 301 38f 3a9 313
    1f68 3a9 314 1f69 3a9 345 1ffc 3ac 345 1fb4 3ae 345 1fc4 3b1 300 1f70 3b1 301 3ac 3b1 304
    1fb1 3b1 306 1fb0 3b1 313 1f00 3b1 314 1f01 3b1 342 1fb6 3b1 345 1fb3 3b5 300 1f72 3b5 301
    3ad 3b5 313 1f10 3b5 314 1f11 3b7 300 1f74 3b7 301 3ae 3b7 313 1f20 3b7 314 1f21 3b7 342
    1fc6 3b7 345 1fc3 3b9 300 1f76 3b9 301 3af 3b9 304 1fd1 3b9 306 1fd0 3b9 308 3ca 3b9 313
    1f30 3b9 314 1f31 3b9 342 1fd6 3bf 300 1f78 3bf 301 3cc 3bf 313 1f40 3bf 314 1f41 3c1 313
    1fe4 3c1 314 1fe5 3c5 300 1f7a 3c5 301 3cd 3c5 304 1fe1 3c5 306 1fe0 3c5 308 3cb 3c5 313
    1f50 3c5 314 1f51 3c5 342 1fe6 3c9 300 1f7c 3c9 301 3ce 3c9 313 1f60 3c9 314 1f61 3c9 342
    1ff6 3c9 345 1ff3 3ca 300 1fd2 3ca 301 390 3ca 342 1fd7 3cb 300 1fe2 3cb 301 3b0 3cb 342
    1fe7 3ce 345 1ff4 3d2 301 3d3 3d2 308 3d4 406 308 407 410 306 4d0 410 308 4d2 413 301 403
    415 300 400 415 306 4d6 415 308 401 416 306 4c1 416 308 4dc 417 308 4de 418 300 40d 418
    304 4e2 418 306 419 418 308 4e4 41a 301 40c 41e 308 4e6 423 304 4ee 423 306 40e 423 308
    4f0 423 30b 4f2 427 308 4f4 42b 308 4f8 42d 308 4ec 430 306 4d1 430 308 4d3 433 301 453
    435 300 450 435 306 4d7 435 308 451 436 306 4c2 436 308 4dd 437 308 4df 438 300 45d 438
    304 4e3 438 306 439 438 308 4e5 43a 301 45c 43e 308 4e7 443 304 4ef 443 306 45e 443 308
    4f1 443 30b 4f3 447 308 4f5 44b 308 4f9 44d 308 4ed 456 308 457 474 30f 476 475 30f 477
    4d8 308 4da 4d9 308 4db 4e8 308 4ea 4e9 308 4eb 627 653 622 627 654 623 627 655 625 648
    654 624 64a 654 626 6c1 654 6c2 6d2 654 6d3 6d5 654 6c0 928 93c 929 930 93c 931 933 93c
    934 9c7 9be 9cb 9c7 9d7 9cc b47 b3e b4b b47 b56 b48 b47 b57 b4c b92 bd7 b94 bc6 bbe bca
    bc6 bd7 bcc bc7 bbe bcb c46 c56 c48 cbf cd5 cc0 cc6 cc2 cca cc6 cd5 cc7 cc6 cd6 cc8 cca
    cd5 ccb d46 d3e d4a d46 d57 d4c d47 d3e d4b dd9 dca dda dd9 dcf ddc dd9 ddf dde ddc dca
    ddd 1025 102e 1026 1b05 1b35 1b06 1b07 1b35 1b08 1b09 1b35 1b0a 1b0b 1b35 1b0c 1b0d 1b35
    1b0e 1b11 1b35 1b12 1b3a 1b35 1b3b 1b3c 1b35 1b3d 1b3e 1b35 1b40 1b3f 1b35 1b41 1b42 1b35
    1b43 1e36 304 1e38 1e37 304 1e39 1e5a 304 1e5c 1e5b 304 1e5d 1e62 307 1e68 1e63 307 1e69
    1ea0 302 1eac 1ea0 306 1eb6 1ea1 302 1ead 1ea1 306 1eb7 1eb8 302 1ec6 1eb9 302 1ec7 1ecc
    302 1ed8 1ecd 302 1ed9 1f00 300 1f02 1f00 301 1f04 1f00 342 1f06 1f00 345 1f80 1f01 300
    1f03 1f01 301 1f05 1f01 342 1f07 1f01 345 1f81 1f02 345 1f82 1f03 345 1f83 1f04 345 1f84
    1f05 345 1f85 1f06 345 1f86 1f07 345 1f87 1f08 300 1f0a 1f08 301 1f0c 1f08 342 1f0e 1f08
    345 1f88 1f09 300 1f0b 1f09 301 1f0d 1f09 342 1f0f 1f09 345 1f89 1f0a 345 1f8a 1f0b 345
    1f8b 1f0c 345 1f8c 1f0d 345 1f8d 1f0e 345 1f8e 1f0f 345 1f8f 1f10 300 1f12 1f10 301 1f14
    1f11 300 1f13 1f11 301 1f15 1f18 300 1f1a 1f18 301 1f1c 1f19 300 1f1b 1f19 301 1f1d 1f20
    300 1f22 1f20 301 1f24 1f20 342 1f26 1f20 345 1f90 1f21 300 1f23 1f21 301 1f25 1f21 342
    1f27 1f21 345 1f91 1f22 345 1f92 1f23 345 1f93 1f24 345 1f94 1f25 345 1f95 1f26 345 1f96
    1f27 345 1f97 1f28 300 1f2a 1f28 301 1f2c 1f28 342 1f2e 1f28 345 1f98 1f29 300 1f2b 1f29
    301 1f2d 1f29 342 1f2f 1f29 345 1f99 1f2a 345 1f9a 1f2b 345 1f9b 1f2c 345 1f9c 1f2d 345
    1f9d 1f2e 345 1f9e 1f2f 345 1f9f 1f30 300 1f32 1f30 301 1f34 1f30 342 1f36 1f31 300 1f33
    1f31 301 1f35 1f31 342 1f37 1f38 300 1f3a 1f38 301 1f3c 1f38 342 1f3e 1f39 300 1f3b 1f39
    301 1f3d 1f39 342 1f3f 1f40 300 1f42 1f40 301 1f44 1f41 300 1f43 1f41 301 1f45 1f48 300
    1f4a 1f48 301 1f4c 1f49 300 1f4b 1f49 301 1f4d 1f50 300 1f52 1f50 301 1f54 1f50 342 1f56
    1f51 300 1f53 1f51 301 1f55 1f51 342 1f57 1f59 300 1f5b 1f59 301 1f5d 1f59 342 1f5f 1f60
    300 1f62 1f60 301 1f64 1f60 342 1f66 1f60 345 1fa0 1f61 300 1f63 1f61 301 1f65 1f61 342
    1f67 1f61 345 1fa1 1f62 345 1fa2 1f63 345 1fa3 1f64 345 1fa4 1f65 345 1fa5 1f66 345 1fa6
    1f67 345 1fa7 1f68 300 1f6a 1f68 301 1f6c 1f68 342 1f6e 1f68 345 1fa8 1f69 300 1f6b 1f69
    301 1f6d 1f69 342 1f6f 1f69 345 1fa9 1f6a 345 1faa 1f6b 345 1fab 1f6c 345 1fac 1f6d 345
    1fad 1f6e 345 1fae 1f6f 345 1faf 1f70 345 1fb2 1f74 345 1fc2 1f7c 345 1ff2 1fb6 345 1fb7
    1fbf 300 1fcd 1fbf 301 1fce 1fbf 342 1fcf 1fc6 345 1fc7 1ff6 345 1ff7 1ffe 300 1fdd 1ffe
    301 1fde 1ffe 342 1fdf 2190 338 219a 2192 338 219b 2194 338 21ae 21d0 338 21cd 21d2 338
    21cf 21d4 338 21ce 2203 338 2204 2208 338 2209 220b 338 220c 2223 338 2224 2225 338 2226
    223c 338 2241 2243 338 2244 2245 338 2247 2248 338 2249 224d 338 226d 2261 338 2262 2264
    338 2270 2265 338 2271 2272 338 2274 2273 338 2275 2276 338 2278 2277 338 2279 227a 338
    2280 227b 338 2281 227c 338 22e0 227d 338 22e1 2282 338 2284 2283 338 2285 2286 338 2288
    2287 338 2289 2291 338 22e2 2292 338 22e3 22a2 338 22ac 22a8 338 22ad 22a9 338 22ae 22ab
    338 22af 22b2 338 22ea 22b3 338 22eb 22b4 338 22ec 22b5 338 22ed 3046 3099 3094 304b 3099
    304c 304d 3099 304e 304f 3099 3050 3051 3099 3052 3053 3099 3054 3055 3099 3056 3057 3099
    3058 3059 3099 305a 305b 3099 305c 305d 3099 305e 305f 3099 3060 3061 3099 3062 3064 3099
    3065 3066 3099 3067 3068 3099 3069 306f 3099 3070 306f 309a 3071 3072 3099 3073 3072 309a
    3074 3075 3099 3076 3075 309a 3077 3078 3099 3079 3078 309a 307a 307b 3099 307c 307b 309a
    307d 309d 3099 309e 30a6 3099 30f4 30ab 3099 30ac 30ad 3099 30ae 30af 3099 30b0 30b1 3099
    30b2 30b3 3099 30b4 30b5 3099 30b6 30b7 3099 30b8 30b9 3099 30ba 30bb 3099 30bc 30bd 3099
    30be 30bf 3099 30c0 30c1 3099 30c2 30c4 3099 30c5 30c6 3099 30c7 30c8 3099 30c9 30cf 3099
    30d0 30cf 309a 30d1 30d2 3099 30d3 30d2 309a 30d4 30d5 3099 30d6 30d5 309a 30d7 30d8 3099
    30d9 30d8 309a 30da 30db 3099 30dc 30db 309a 30dd 30ef 3099 30f7 30f0 3099 30f8 30f1 3099
    30f9 30f2 3099 30fa 30fd 3099 30fe 11099 110ba 1109a 1109b 110ba 1109c 110a5 110ba 110ab
    11131 11127 1112e 11132 11127 1112f 11347 1133e 1134b 11347 11357 1134c 114b9 114b0 114bc
    114b9 114ba 114bb 114b9 114bd 114be 115b8 115af 115ba 115b9 115af 115bb 11935 11930 11938"

end Lineage.Text.Normal
