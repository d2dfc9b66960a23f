import Roster.Text.Runs

/-!
# What becomes of the characters of a name

Before a name is looked up, each of its characters is kept, dropped, refused or replaced by
one or more others, so that spellings that differ in case or width come out the same. The
rules here are those of Unicode Technical Standard 46 without transitional processing.

* `Mapping.mapChar?` applies the rule of one character, `Mapping.mapText?` all of them.
* `Mapping.isKept` tells the characters that stay as they are.
-/

namespace Roster.Domain.Mapping

/-- The rule of a run of characters. -/
inductive Rule
  /-- The character stays. -/
  | kept
  /-- The character is left out. -/
  | dropped
  /-- The name is refused. -/
  | refused
  /-- The character becomes the one `n` places further on. -/
  | up (n : Nat)
  /-- The character becomes the one `n` places further back. -/
  | down (n : Nat)
  /-- Every second character, from the first one on, becomes its right neighbour. -/
  | pairs
  /-- The character becomes a fixed text. -/
  | text (cs : List Char)

/-- Reads the text form of a rule. -/
def Rule.read : List Char → Rule
  | ['v'] => .kept
  | ['i'] => .dropped
  | ['p'] => .pairs
  | '+' :: cs => .up ((Text.value? 16 cs).getD 0)
  | '-' :: cs => .down ((Text.value? 16 cs).getD 0)
  | '=' :: cs => .text (parts cs)
  | _ => .refused
where
  /-- The characters whose numbers stand between the dots. -/
  parts (cs : List Char) : List Char :=
    ((cs.map fun c => if c == '.' then ' ' else c) |> Text.Runs.words).map fun w =>
      Char.ofNat ((Text.value? 16 w).getD 0)

/-- The runs of characters from `U+0080` on, each with its length and what becomes of it. -/
def mappingLines : List String := [
  "20x 1-80 7v 1=20.308 1v 1-49 2v 1i 1v 1=20.304 2v 2-80 1=20.301 1+307 2v 1=20.327 1-88 1-4b",
  "1v 1=31.2044.34 1=31.2044.32 1=33.2044.34 1v 17+20 1v 7+20 21v 30p 1=69.307 1v 2=69.6a 4p",
  "1v 6p 2=6c.b7 8p 1=2bc.6e 2ep 1-79 6p 1-10c 1v 1+d2 4p 1+ce 2p 2+cd 2p 1v 1+4f 1+ca 1+cb 2p",
  "1+cd 1+cf 1v 1+d3 1+d1 2p 2v 1+d3 1+d5 1v 1+d6 6p 1+da 2p 1+da 2v 2p 1+da 2p 2+d9 4p 1+db",
  "2p 2v 2p 6v 3=64.17e 3=6c.6a 3=6e.6a 10p 1v 12p 1v 3=64.7a 2p 1-61 1-38 28p 1-82 1v 12p 6v",
  "1+2a2b 2p 1-a3 1+2a28 2v 2p 1-c3 1+45 1+47 ap 60v 1-248 1-4b 1-248 1-241 1-3b 1-3a 1-35",
  "1-240 1-23f 1fv 1=20.306 1=20.307 1=20.30a 1=20.328 1=20.303 1=20.30b 2v 1-7d 1-275 1-26f",
  "1-26b 1-4f 5bv 2-40 1v 1-30 1=308.301 1+74 9v 1i 20v 4p 1-bb 1v 2p 2x 1=20.3b9 3v 1-343",
  "1+74 4x 1=20.301 1=20.308.301 1+26 1-2d0 3+25 1x 1+40 1x 2+3f 1v 11+20 1x 9+20 23v 1+8 1-1e",
  "1-19 1-d 1-6 1-9 1-f 1-16 1v 18p 1-36 1-30 1-2f 1v 1-3c 1-40 1v 2p 1-36 2p 1v 3-82 10+50",
  "20+20 30v 22p 8v 36p 1+f ep 1v 60p 1x 26+30 2x 2ev 1=565.582 3v 2x 3v 1x 37v 8x 1bv 4x 6v",
  "11x 16v 1x 58v 1=627.674 1=648.674 1=6c7.674 1=64a.674 64v 1x 30v 2x 3bv 2x 65v ex 3bv 2x",
  "31v 2x fv 1x 1cv 2x 1v 1x bv 5x 20v 7x 4bv 1x 75v 1=915.93c 1=916.93c 1=917.93c 1=91c.93c",
  "1=921.93c 1=922.93c 1=92b.93c 1=92f.93c 24v 1x 8v 2x 2v 2x 16v 1x 7v 1x 1v 3x 4v 2x 9v 2x",
  "2v 2x 4v 8x 1v 4x 1=9a1.9bc 1=9a2.9bc 1x 1=9af.9bc 4v 2x 19v 2x 3v 1x 6v 4x 2v 2x 16v 1x 7v",
  "1x 1v 1=a32.a3c 1x 1v 1=a38.a3c 1x 2v 2x 1v 1x 5v 4x 2v 2x 3v 3x 1v 7x 1=a16.a3c 1=a17.a3c",
  "1=a1c.a3c 1v 1x 1=a2b.a3c 7x 11v ax 3v 1x 9v 1x 3v 1x 16v 1x 7v 1x 2v 1x 5v 2x av 1x 3v 1x",
  "3v 2x 1v fx 4v 2x cv 7x 7v 1x 3v 1x 8v 2x 2v 2x 16v 1x 7v 1x 2v 1x 5v 2x 9v 2x 2v 2x 3v 7x",
  "3v 4x 1=b21.b3c 1=b22.b3c 1x 5v 2x 12v ax 2v 1x 6v 3x 3v 1x 4v 3x 2v 1x 1v 1x 2v 3x 2v 3x",
  "3v 3x cv 4x 5v 3x 3v 1x 4v 2x 1v 6x 1v ex 15v 5x dv 1x 3v 1x 17v 1x 10v 2x 9v 1x 3v 1x 4v",
  "7x 2v 1x 3v 1x 2v 2x 4v 2x av 7x 16v 1x 3v 1x 17v 1x av 1x 5v 2x 9v 1x 3v 1x 4v 7x 2v 5x 3v",
  "1x 4v 2x av 1x 3v cx dv 1x 3v 1x 33v 1x 3v 1x 6v 4x 10v 2x 1av 1x 3v 1x 12v 3x 18v 1x 9v 1x",
  "1v 2x 7v 3x 1v 4x 6v 1x 1v 1x 8v 6x av 2x 3v cx 32v 1=e4d.e32 7v 4x 1dv 25x 2v 1x 1v 1x 5v",
  "1x 18v 1x 1v 1x cv 1=ecd.eb2 av 2x 5v 1x 1v 1x 7v 1x av 2x 1=eab.e99 1=eab.ea1 2v 20x cv",
  "1-1 36v 1=f42.fb7 4v 1x 4v 1=f4c.fb7 4v 1=f51.fb7 4v 1=f56.fb7 4v 1=f5b.fb7 cv 1=f40.fb5 3v",
  "4x 2v 1=f71.f72 1v 1=f71.f74 1=fb2.f80 1=fb2.f71.f80 1=fb3.f80 1=fb3.f71.f80 7v 1=f71.f80",
  "11v 1=f92.fb7 4v 1x 4v 1=f9c.fb7 4v 1=fa1.fb7 4v 1=fa6.fb7 4v 1=fab.fb7 cv 1=f90.fb5 3v 1x",
  "fv 1x dv 25x a0v 26+1c60 1x 1+1c60 5x 1+1c60 2x 2cv 1-20 62v 2i e8v 1x 4v 2x 7v 1x 1v 1x 4v",
  "2x 29v 1x 4v 2x 21v 1x 4v 2x 7v 1x 1v 1x 4v 2x fv 1x 39v 1x 4v 2x 43v 2x 20v 3x 1av 6x 56v",
  "2x 6-8 2x 280v 1x 1cv 3x 59v 7x 16v 9x 18v 9x 14v cx dv 1x 3v 1x 2v cx 34v 2i 28v 2x av 6x",
  "av 6x bv 5i av 6x 59v 7x 2bv 5x 46v ax 1fv 1x cv 4x cv 4x 1v 3x 2av 2x 5v bx 2cv 4x 1av 6x",
  "bv 3x 3ev 2x 41v 1x 1dv 2x bv 6x av 6x ev 2x 2ev 2x cv 14x 4dv 1x a6v 8x 3cv 3x fv 3x 33v",
  "1-184e 1-184d 1-1844 2-1842 1-1843 1-183c 1-1824 1+89c3 2p 5x 2b-bc0 2x 3-bc0 8v 8x 2bv 5x",
  "2cv 1-1ccb 1-1c47 1-1ccc 1v 2-1ccc 1-1b55 8-1ccc 1v 1-1ccd 1-1b1a 1-1cce 1-1ccd 2-1ccc",
  "1-1ccb 1-1ce2 2-1af4 1-44 1-1ce5 2-1ce4 1-1af1 2-1af0 1-1ce6 1v 1-1ce4 1-1ce3 1-1c06 1-1ce3",
  "1-1aff 2-3e 1-1ce6 2-1ce3 1-3c 1-1aeb 1-1ce5 1-37 3-19ab 2-199a 1-1cf9 1-1cf1 2-1cef 2-19b4",
  "1-19a7 2-19a3 dv 1-193b 22v 1-1b49 1-1d39 1-1b48 1-1cae 1-1b43 1-1d3a 1-1b42 1-1b41 1-1b3e",
  "3-1b3c 1-2c 1-1b0b 1-1b3c 1-25 1-1b0c 1-1b3b 1-1b3d 4-1b3c 1-1b3a 2-1b31 1-1c0a 2-1b2d 1-9c",
  "2-1b2e 1-1d41 3-1b2c 1-1a07 40v 96p 4v 1=61.2be 1-3a 2v 1-1dbf 1v 60p 8v 8-8 6v 2x 6-8 2x",
  "8v 8-8 8v 8-8 6v 2x 6-8 2x 8v 1x 1-8 1x 1-8 1x 1-8 1x 1-8 8v 8-8 1v 1-1bc5 1v 1-1bc6 1v",
  "1-1bc7 1v 1-1bc8 1v 1-1bad 1v 1-1bae 1v 1-1baf 2x 1=1f00.3b9 1=1f01.3b9 1=1f02.3b9",
  "1=1f03.3b9 1=1f04.3b9 1=1f05.3b9 1=1f06.3b9 1=1f07.3b9 1=1f00.3b9 1=1f01.3b9 1=1f02.3b9",
  "1=1f03.3b9 1=1f04.3b9 1=1f05.3b9 1=1f06.3b9 1=1f07.3b9 1=1f20.3b9 1=1f21.3b9 1=1f22.3b9",
  "1=1f23.3b9 1=1f24.3b9 1=1f25.3b9 1=1f26.3b9 1=1f27.3b9 1=1f20.3b9 1=1f21.3b9 1=1f22.3b9",
  "1=1f23.3b9 1=1f24.3b9 1=1f25.3b9 1=1f26.3b9 1=1f27.3b9 1=1f60.3b9 1=1f61.3b9 1=1f62.3b9",
  "1=1f63.3b9 1=1f64.3b9 1=1f65.3b9 1=1f66.3b9 1=1f67.3b9 1=1f60.3b9 1=1f61.3b9 1=1f62.3b9",
  "1=1f63.3b9 1=1f64.3b9 1=1f65.3b9 1=1f66.3b9 1=1f67.3b9 2v 1=1f70.3b9 1=3b1.3b9 1=3ac.3b9 1x",
  "1v 1=1fb6.3b9 2-8 1-4a 1-1c0f 1=3b1.3b9 1=20.313 1-1c05 1=20.313 1=20.342 1=20.308.342",
  "1=1f74.3b9 1=3b7.3b9 1=3ae.3b9 1x 1v 1=1fc6.3b9 1-56 1-1c1c 1-56 1-1c1d 1=3b7.3b9",
  "1=20.313.300 1=20.313.301 1=20.313.342 3v 1-1c43 2x 2v 2-8 1-64 1-1c2c 1x 1=20.314.300",
  "1=20.314.301 1=20.314.342 3v 1-1c33 4v 2-8 1-70 1-1c1e 1-7 1=20.308.300 1=20.308.301 1-1f8f",
  "2x 1=1f7c.3b9 1=3c9.3b9 1=3ce.3b9 1x 1v 1=1ff6.3b9 1-80 1-1c2d 1-7e 1-1c2d 1=3c9.3b9",
  "1=20.301 1=20.314 1x b=20 1i 2v 2x 1v 1-1 5v 1=20.333 cv 3x 1v 7x 1-200f 3v 1=2032.2032",
  "1=2032.2032.2032 1v 1=2035.2035 1=2035.2035.2035 4v 1=21.21 1v 1=20.305 8v 1=3f.3f 1=3f.21",
  "1=21.3f dv 1=2032.2032.2032.2032 7v 1-203f 5i 5x 6i 1-2040 1-2008 2x 6-2040 1-204f 1+197",
  "1-203f 2-2055 1-2011 a-2050 1-205f 1+187 1-204f 2-2065 1x 1-202f 1-202c 1-2023 1-201b",
  "1-1e3b 1-202d 4-202b 1-202a 2-2028 3x 8v 1=72.73 19v ex 21v fx 1=61.2f.63 1=61.2f.73 1-209f",
  "1=b0.63 1v 1=63.2f.6f 1=63.2f.75 1-1eac 1v 1=b0.66 2-20a3 3=68 1-1fe8 2=69 2=6c 1v 1-20a7",
  "1=6e.6f 2v 3-20a9 2=72 2v 1=73.6d 1=74.65.6c 1=74.6d 1v 1-20aa 1v 1-1d5d 1v 1-20ae 1v",
  "1-20bf 1-2046 2-20ca 1v 2=65 1-20cb 1+1c 1-20c6 1-20c5 4-1b65 1-20d0 1v 1=66.61.78 1-1d7c",
  "2=3b3 1-1d7f 1+d1 4v 2=64 1-20e2 2-20df 6v 1=31.2044.37 1=31.2044.39 1=31.2044.31.30",
  "1=31.2044.33 1=32.2044.33 1=31.2044.35 1=32.2044.35 1=33.2044.35 1=34.2044.35 1=31.2044.36",
  "1=35.2044.36 1=31.2044.38 1=33.2044.38 1=35.2044.38 1=37.2044.38 1=31.2044 1-20f7 1=69.69",
  "1=69.69.69 1=69.76 1-20ee 1=76.69 1=76.69.69 1=76.69.69.69 1=69.78 1-20f1 1=78.69",
  "1=78.69.69 1-2100 2-210a 1-2102 1-2107 1=69.69 1=69.69.69 1=69.76 1-20fe 1=76.69 1=76.69.69",
  "1=76.69.69.69 1=69.78 1-2101 1=78.69 1=78.69.69 1-2110 2-211a 1-2112 3v 2p 4v 1=30.2044.33",
  "2v 4x 9cv 1=222b.222b 1=222b.222b.222b 1v 1=222e.222e 1=222e.222e.222e f8v 2+cdf ffv 16x bv",
  "15x 9-242f 1=31.30 1=31.31 1=31.32 1=31.33 1=31.34 1=31.35 1=31.36 1=31.37 1=31.38 1=31.39",
  "1=32.30 1=28.31.29 1=28.32.29 1=28.33.29 1=28.34.29 1=28.35.29 1=28.36.29 1=28.37.29",
  "1=28.38.29 1=28.39.29 1=28.31.30.29 1=28.31.31.29 1=28.31.32.29 1=28.31.33.29 1=28.31.34.29",
  "1=28.31.35.29 1=28.31.36.29 1=28.31.37.29 1=28.31.38.29 1=28.31.39.29 1=28.32.30.29 14x",
  "1=28.61.29 1=28.62.29 1=28.63.29 1=28.64.29 1=28.65.29 1=28.66.29 1=28.67.29 1=28.68.29",
  "1=28.69.29 1=28.6a.29 1=28.6b.29 1=28.6c.29 1=28.6d.29 1=28.6e.29 1=28.6f.29 1=28.70.29",
  "1=28.71.29 1=28.72.29 1=28.73.29 1=28.74.29 1=28.75.29 1=28.76.29 1=28.77.29 1=28.78.29",
  "1=28.79.29 1=28.7a.29 1a-2455 1a-246f 1-24ba 521v 1=222b.222b.222b.222b 67v 1=3a.3a.3d",
  "1=3d.3d 1=3d.3d.3d 65v 1=2add.338 97v 2x 8av 30+30 30v 2p 1-29f7 1-ee6 1-29e7 2v 6p 1-2a1c",
  "1-29fd 1-2a1f 1-2a1e 1v 2p 1v 2p 5v 1-2c12 1-2c07 2-2a3f 64p 7v 4p 3v 2p 5x 2dv 1x 1v 5x 1v",
  "2x 38v 7x 1-e 1v ex 18v 9x 7v 1x 7v 1x 7v 1x 7v 1x 7v 1x 7v 1x 7v 1x 7v 1x 7ev 22x 1av 1x",
  "4v 1+3d2e 53v 1+70ac cx 1+1f00 1+1f27 1+1f34 1+1f3c 1+1f55 1+1f80 1+1f86 1+1f99 1+1fb2",
  "1+2236 1+225b 1+2260 1+2276 1+2289 1+229d 1+22d1 1+22e5 1+22ef 1+2389 1+23e6 1+2401 1+2405",
  "1+2422 1+242a 1+2444 1+2450 1+2468 1+249b 1+24ac 1+24c6 1+27b9 1+2800 1+29cb 1+29e1 1+29e8",
  "1+29f2 1+2a03 1+2a4e 1+2c2a 1+2c59 1+2cd0 1+2ce6 1+2cf8 1+2d0d 1+2d42 1+2d44 1+2ead 1+2eb6",
  "1+2ec1 1+2ecd 1+2f40 1+2f47 1+2f4b 1+2fbf 1+2fc8 1+2fd4 1+2fdb 1+3017 1+3027 1+3038 1+3087",
  "1+32cb 1+32f8 1+330c 1+35ef 1+35f3 1+3645 1+3654 1+3660 1+3674 1+369a 1+369e 1+37a8 1+37bf",
  "1+37de 1+3bd5 1+3c16 1+3c2c 1+3c65 1+3c7c 1+3c84 1+3c8a 1+3cbd 1+3cc1 1+3ce0 1+4116 1+42d4",
  "1+42df 1+42e3 1+42e6 1+42ed 1+42fe 1+42ff 1+434f 1+4426 1+442a 1+457c 1+4585 1+45b6 1+45bc",
  "1+45c4 1+45cb 1+4625 1+462b 1+470e 1+4714 1+4744 1+4754 1+4782 1+486e 1+4874 1+4884 1+49ca",
  "1+4a47 1+4a4c 1+4b01 1+4b57 1+4b84 1+4cfd 1+4d81 1+4fbe 1+4fd8 1+5010 1+5042 1+5085 1+508f",
  "1+5094 1+50b4 1+50ff 1+5108 1+5261 1+5267 1+526f 1+5277 1+5286 1+5294 1+5297 1+52e5 1+52e8",
  "1+52ed 1+56c1 1+56de 1+58b2 1+58bd 1+58d3 1+59ed 1+59f9 1+5a3f 1+5a6c 1+5ca2 1+5cb0 1+5cbe",
  "1+5ce0 1+5d04 1+5dca 1+5dd5 1+5e17 1+5f0e 1+5f2c 1+5ffc 1+6010 1+6014 1+60ef 1+61a6 1+6222",
  "1+6227 1+622b 1+65d0 1+65d8 1+6673 1+670c 1+670e 1+673c 1+67a4 1+67b0 1+67b3 1+67b9 1+681a",
  "1+683b 1+6840 1+684d 1+68f3 1+6925 1+6928 1+69de 1+69e0 1+69f2 1+6aed 1+6b1c 1+6b22 1+6b67",
  "1+6b70 1+6b72 1+6b7b 1+6b98 1+6d22 1+6eb1 1+6eba 1+6edf 1+6ef4 1+6efb 1+6f04 1+6f07 1+6f2e",
  "1+6f31 1+6f41 1+6f45 1+6f51 1+6f6b 1+6f79 1+6f80 1+6fba 1+6fc8 1+6fcb 2ax 1-2fe0 1v 1-2fd4",
  "33v 1-24 1v 1+2309 2+230b 5v 1x 56v 2x 2v 1=20.3099 1=20.309a 2v 1=3088.308a 5fv",
  "1=30b3.30c8 5x 2bv 1x 2-2031 1-1f89 1-2032 2-1f89 3-2034 6-1f8a 1-2026 3-203b 1-2023 a-203c",
  "15-1fee 1i 2-2051 2-1fa0 1-1f9d 1-1f9c 1-1f98 1-1f95 1-1f94 1-2052 1-1f92 1-1f91 2-2054",
  "1-2053 2-2052 1-204f 1-204e 5-204d 1-204b 1-2048 1-203f 1-2039 1-2035 2-1f91 3-202d 2-2003",
  "1-2001 2-1ff9 1-1ff8 1-1fef 1-1fed 1x 2v 1+1c6e 1+1cf9 1+1c75 1+2546 1+1c74 1+1c96 1+1c73",
  "1+4399 1+1cbf 1+1c7e 1+1c65 1+278c 1+2592 1+1d1b 46v ax 10v 1=28.1100.29 1=28.1102.29",
  "1=28.1103.29 1=28.1105.29 1=28.1106.29 1=28.1107.29 1=28.1109.29 1=28.110b.29 1=28.110c.29",
  "1=28.110e.29 1=28.110f.29 1=28.1110.29 1=28.1111.29 1=28.1112.29 1=28.ac00.29 1=28.b098.29",
  "1=28.b2e4.29 1=28.b77c.29 1=28.b9c8.29 1=28.bc14.29 1=28.c0ac.29 1=28.c544.29 1=28.c790.29",
  "1=28.cc28.29 1=28.ce74.29 1=28.d0c0.29 1=28.d30c.29 1=28.d558.29 1=28.c8fc.29",
  "1=28.c624.c804.29 1=28.c624.d6c4.29 1x 1=28.4e00.29 1=28.4e8c.29 1=28.4e09.29 1=28.56db.29",
  "1=28.4e94.29 1=28.516d.29 1=28.4e03.29 1=28.516b.29 1=28.4e5d.29 1=28.5341.29 1=28.6708.29",
  "1=28.706b.29 1=28.6c34.29 1=28.6728.29 1=28.91d1.29 1=28.571f.29 1=28.65e5.29 1=28.682a.29",
  "1=28.6709.29 1=28.793e.29 1=28.540d.29 1=28.7279.29 1=28.8ca1.29 1=28.795d.29 1=28.52b4.29",
  "1=28.4ee3.29 1=28.547c.29 1=28.5b66.29 1=28.76e3.29 1=28.4f01.29 1=28.8cc7.29 1=28.5354.29",
  "1=28.796d.29 1=28.4f11.29 1=28.81ea.29 1=28.81f3.29 1+230b 1+2c37 1+3341 1+4948 8v",
  "1=70.74.65 1=32.31 1=32.32 1=32.33 1=32.34 1=32.35 1=32.36 1=32.37 1=32.38 1=32.39 1=33.30",
  "1=33.31 1=33.32 1=33.33 1=33.34 1=33.35 1-2160 2-215f 3-215e 1-215d 2-215c 5-215b 1+7992",
  "1+7e29 1+8074 1+850b 1+8756 1+89a1 1+8e38 1+92cf 1+951a 1+99b1 1+9bfc 1+9e47 1+a092 1+a2dd",
  "1=cc38.ace0 1=c8fc.c758 1+9432 1v 1+1b80 1+1c0b 1+1b87 1+2458 1+1c10 1+1ee8 1+1b7d 1+1ee4",
  "1+1bd5 1+20b8 1+347e 1+3de0 1+39a8 1+349b 1+5f43 1+2490 1+3355 1+3599 1+3477 1+46ab 1+2179",
  "1+3fe4 1+5a0b 1+46c6 1+201c 1+473f 1+429d 1+26d8 1+5dcd 1+1e8d 1+20d2 1+3a49 1+6565 1+1c70",
  "1+1ef7 1+38c0 1+1b66 1+1b88 1+1b65 1+2b3f 1+214b 1+2092 1+28ed 1+28bb 1+4437 1+1c54 1+5a19",
  "1+20a5 1+266c 1=33.36 1=33.37 1=33.38 1=33.39 1=34.30 1=34.31 1=34.32 1=34.33 1=34.34",
  "1=34.35 1=34.36 1=34.37 1=34.38 1=34.39 1=35.30 1=31.6708 1=32.6708 1=33.6708 1=34.6708",
  "1=35.6708 1=36.6708 1=37.6708 1=38.6708 1=39.6708 1=31.30.6708 1=31.31.6708 1=31.32.6708",
  "1=68.67 1=65.72.67 1=65.76 1=6c.74.64 1-22e 1-22d 1-22c 1-22b 2-22a 1-229 1-228 1-227 1-226",
  "1-225 1-224 1-223 1-222 1-221 1-220 1-21f 1-21d 1-21c 1-21b 6-21a 1-218 1-216 1-214 1-212",
  "5-210 1-20f 1-20e 6-20d 4-20c 1=4ee4.548c 1=30a2.30d1.30fc.30c8 1=30a2.30eb.30d5.30a1",
  "1=30a2.30f3.30da.30a2 1=30a2.30fc.30eb 1=30a4.30cb.30f3.30b0 1=30a4.30f3.30c1",
  "1=30a6.30a9.30f3 1=30a8.30b9.30af.30fc.30c9 1=30a8.30fc.30ab.30fc 1=30aa.30f3.30b9",
  "1=30aa.30fc.30e0 1=30ab.30a4.30ea 1=30ab.30e9.30c3.30c8 1=30ab.30ed.30ea.30fc",
  "1=30ac.30ed.30f3 1=30ac.30f3.30de 1=30ae.30ac 1=30ae.30cb.30fc 1=30ad.30e5.30ea.30fc",
  "1=30ae.30eb.30c0.30fc 1=30ad.30ed 1=30ad.30ed.30b0.30e9.30e0",
  "1=30ad.30ed.30e1.30fc.30c8.30eb 1=30ad.30ed.30ef.30c3.30c8 1=30b0.30e9.30e0",
  "1=30b0.30e9.30e0.30c8.30f3 1=30af.30eb.30bc.30a4.30ed 1=30af.30ed.30fc.30cd",
  "1=30b1.30fc.30b9 1=30b3.30eb.30ca 1=30b3.30fc.30dd 1=30b5.30a4.30af.30eb",
  "1=30b5.30f3.30c1.30fc.30e0 1=30b7.30ea.30f3.30b0 1=30bb.30f3.30c1 1=30bb.30f3.30c8",
  "1=30c0.30fc.30b9 1=30c7.30b7 1=30c9.30eb 1=30c8.30f3 1=30ca.30ce 1=30ce.30c3.30c8",
  "1=30cf.30a4.30c4 1=30d1.30fc.30bb.30f3.30c8 1=30d1.30fc.30c4 1=30d0.30fc.30ec.30eb",
  "1=30d4.30a2.30b9.30c8.30eb 1=30d4.30af.30eb 1=30d4.30b3 1=30d3.30eb",
  "1=30d5.30a1.30e9.30c3.30c9 1=30d5.30a3.30fc.30c8 1=30d6.30c3.30b7.30a7.30eb",
  "1=30d5.30e9.30f3 1=30d8.30af.30bf.30fc.30eb 1=30da.30bd 1=30da.30cb.30d2 1=30d8.30eb.30c4",
  "1=30da.30f3.30b9 1=30da.30fc.30b8 1=30d9.30fc.30bf 1=30dd.30a4.30f3.30c8 1=30dc.30eb.30c8",
  "1=30db.30f3 1=30dd.30f3.30c9 1=30db.30fc.30eb 1=30db.30fc.30f3 1=30de.30a4.30af.30ed",
  "1=30de.30a4.30eb 1=30de.30c3.30cf 1=30de.30eb.30af 1=30de.30f3.30b7.30e7.30f3",
  "1=30df.30af.30ed.30f3 1=30df.30ea 1=30df.30ea.30d0.30fc.30eb 1=30e1.30ac",
  "1=30e1.30ac.30c8.30f3 1=30e1.30fc.30c8.30eb 1=30e4.30fc.30c9 1=30e4.30fc.30eb",
  "1=30e6.30a2.30f3 1=30ea.30c3.30c8.30eb 1=30ea.30e9 1=30eb.30d4.30fc 1=30eb.30fc.30d6.30eb",
  "1=30ec.30e0 1=30ec.30f3.30c8.30b2.30f3 1=30ef.30c3.30c8 1=30.70b9 1=31.70b9 1=32.70b9",
  "1=33.70b9 1=34.70b9 1=35.70b9 1=36.70b9 1=37.70b9 1=38.70b9 1=39.70b9 1=31.30.70b9",
  "1=31.31.70b9 1=31.32.70b9 1=31.33.70b9 1=31.34.70b9 1=31.35.70b9 1=31.36.70b9 1=31.37.70b9",
  "1=31.38.70b9 1=31.39.70b9 1=32.30.70b9 1=32.31.70b9 1=32.32.70b9 1=32.33.70b9 1=32.34.70b9",
  "1=68.70.61 1=64.61 1=61.75 1=62.61.72 1=6f.76 1=70.63 1=64.6d 1=64.6d.32 1=64.6d.33 1=69.75",
  "1=5e73.6210 1=662d.548c 1=5927.6b63 1=660e.6cbb 1=682a.5f0f.4f1a.793e 1=70.61 1=6e.61",
  "1=3bc.61 1=6d.61 1=6b.61 1=6b.62 1=6d.62 1=67.62 1=63.61.6c 1=6b.63.61.6c 1=70.66 1=6e.66",
  "1=3bc.66 1=3bc.67 1=6d.67 1=6b.67 1=68.7a 1=6b.68.7a 1=6d.68.7a 1=67.68.7a 1=74.68.7a",
  "1=3bc.6c 1=6d.6c 1=64.6c 1=6b.6c 1=66.6d 1=6e.6d 1=3bc.6d 1=6d.6d 1=63.6d 1=6b.6d",
  "1=6d.6d.32 1=63.6d.32 1=6d.32 1=6b.6d.32 1=6d.6d.33 1=63.6d.33 1=6d.33 1=6b.6d.33",
  "1=6d.2215.73 1=6d.2215.73.32 1=70.61 1=6b.70.61 1=6d.70.61 1=67.70.61 1=72.61.64",
  "1=72.61.64.2215.73 1=72.61.64.2215.73.32 1=70.73 1=6e.73 1=3bc.73 1=6d.73 1=70.76 1=6e.76",
  "1=3bc.76 1=6d.76 1=6b.76 1=6d.76 1=70.77 1=6e.77 1=3bc.77 1=6d.77 1=6b.77 1=6d.77 1=6b.3c9",
  "1=6d.3c9 1x 1=62.71 1=63.63 1=63.64 1=63.2215.6b.67 1x 1=64.62 1=67.79 1=68.61 1=68.70",
  "1=69.6e 1=6b.6b 1=6b.6d 1=6b.74 1=6c.6d 1=6c.6e 1=6c.6f.67 1=6c.78 1=6d.62 1=6d.69.6c",
  "1=6d.6f.6c 1=70.68 1x 1=70.70.6d 1=70.72 1=73.72 1=73.76 1=77.62 1=76.2215.6d 1=61.2215.6d",
  "1=31.65e5 1=32.65e5 1=33.65e5 1=34.65e5 1=35.65e5 1=36.65e5 1=37.65e5 1=38.65e5 1=39.65e5",
  "1=31.30.65e5 1=31.31.65e5 1=31.32.65e5 1=31.33.65e5 1=31.34.65e5 1=31.35.65e5 1=31.36.65e5",
  "1=31.37.65e5 1=31.38.65e5 1=31.39.65e5 1=32.30.65e5 1=32.31.65e5 1=32.32.65e5 1=32.33.65e5",
  "1=32.34.65e5 1=32.35.65e5 1=32.36.65e5 1=32.37.65e5 1=32.38.65e5 1=32.39.65e5 1=33.30.65e5",
  "1=33.31.65e5 1=67.61.6c 708dv 3x 37v 9x 15cv 14x 2ep 12v 1cp 1-a252 1-a251 5av 8x 22v ep 2v",
  "3ep 1-1 8v 4p 1-8a04 ap 3v 2p 1-a528 2v 4p 2v 14p 1-a544 1-a54f 1-a54b 1-a541 1-a544 1v",
  "1-a512 1-a52a 1-a515 1+3a0 10p 1-30 1-a543 1-8a38 4p 1-a567 10p 1-a641 14x 1-a77e 1-a78f",
  "1-a78d 1-a783 2p 1v 1-a6d1 1-a6a6 33v 3x av 6x 38v 8x 46v 8x cv 6x 74v bx 1ev 3x 4ev 1x bv",
  "4x 21v 1x 37v 9x ev 2x av 2x 67v 18x 1cv ax 6v 2x 6v 2x 6v 9x 7v 1x 7v 1x 2cv 1-435 1-26",
  "1-a8f3 1-d 9v 1-a8dc 2v 4x 50-97d0 2ev 2x av 6x 2ba4v cx 17v 4x 31v 2104x 1-6cb8 1-920d",
  "1-6a38 1-6c3b 1-8a33 1-aad3 1-a521 2=9f9c 1-9fb8 1-6739 1-a384 1-9fc4 1-9717 1-82a5 1-798a",
  "1-72d1 1-7157 1-701a 1-6884 1-8f12 1-8bfa 1-883d 1-8539 1-74db 1-67af 1-5f29 1-aa99 1-a5a7",
  "1-8e19 1-8703 1-72f2 1-5b02 1-9bd1 1-8937 1-7356 1-6fc0 1-965c 1-774e 1-7108 1-9a5e 1-9212",
  "1-8bc0 1-862f 1-685e 1-a9a7 1-a777 1-a651 1-946c 1-8e5e 1-8722 1-824c 1-7933 1-732f 1-72da",
  "1-6b48 1-6206 1-5dca 1-5b40 1-80af 1-7fbd 1-7b9d 1-7575 1-663b 1-5ac1 1-6e6b 1-a063 1-9a3f",
  "1-7ce4 1-78c7 1-86e4 1-807d 1-6c86 1-6252 1-a072 1-9ce9 1-8f39 1-8b73 1-8a3f 1-7c20 1-7b19",
  "1-6306 1-a680 1-78c8 1-a778 1-a789 1-7f3a 1-7b99 1-7567 1-62e4 1-6dda 1-968c 1-8f5a 1-6e5f",
  "1-ab25 1-9d78 1-994e 1-85da 1-83f2 1-a64c 1-8069 1-a9a6 1-99bd 1-ab5a 1-8c9c 1-93f1 1-7c48",
  "1-a5a8 1-a10e 1-826c 1-7525 1-6ec5 1-8db6 1-69c1 1-8cea 1-9675 1-768f 1-95d5 1-8411 1-aac9",
  "1-a80f 1-a7b0 1-90f9 1-7c94 1-770d 1-6eab 1-67af 1-a68a 1-a53e 1-a00e 1-9a96 1-93be 1-8986",
  "1-805b 1-63d9 1-5f1d 1-5af1 1-5abb 1-a6ef 1-92c5 1-8e15 1-6a2b 1-9b1a 1-97ff 1-9790 1-94f7",
  "1-8a6f 1-884a 1-850b 1-7fcb 1-7ba2 1-7928 1-6a72 1-74ab 1-6977 1-6651 1-a785 1-a6fa 1-a4e1",
  "1-88d7 1-70de 1-6ef7 1-9ad9 1-99ae 1-9629 1-8df7 1-7d68 1-8632 1-aac4 1-a2b0 1-9dc3 1-9bf1",
  "1-9990 1-85fb 1-8545 1-7a15 1-796a 1-677d 1-62bc 1-626b 1-619c 1-aa2a 1-8008 1-6803 1-6300",
  "1-98d8 1-ab34 1-a8e1 1-9dce 1-9d7e 1-9425 1-8fbd 1-87f2 1-837f 1-74c6 1-6947 1-5a37 1-933d",
  "1-6398 1-a73e 1-924d 1-91d6 1-8c89 1-8b2f 1-85c3 1-8474 1-8163 1-7cbf 1-6172 1-a864 1-97a4",
  "1-635b 1-a9a9 1-9cbc 1-8bec 1-6aad 1-9a4d 1-9895 1-91c3 1-8654 1-6356 1-a7b4 1-a5cf 1-9d7a",
  "1-93cd 1-9293 1-913a 1-8cfe 1-85de 1-8403 1-7a6d 1-7118 1-7107 1-681d 1-6308 1-a6ac 1-8b32",
  "1-a5d0 1-881e 1-8557 1-73f6 1-634e 1-5d9b 1-5b54 1-925d 1-8c2a 1-780e 1-7f2c 1-7ed8 1-7d67",
  "1-873a 1-8962 1-6ea4 1-ab3d 1-76c8 1-a7c5 1-a7f9 1-9b5b 1-972f 1-7d2d 1-9e7f 1-8ce7 1-9352",
  "1-6acc 1-71bc 1-63bc 1-707f 1-9b38 1-a8cc 1-a44d 2v 1-a1b6 1v 1-939e 2v 1-a837 1-86ec",
  "1-834d 1-80dc 1-80bb 1-80b5 1-808c 1-62c6 1-7d5f 1-7a61 1v 1-740e 1v 1-6f2a 2v 1-69ed",
  "1-6929 3v 1-613b 1-612f 1-6104 1-5c79 1-6950 1-6378 1-aa82 1-a94a 1-a8e5 1-a76a 1-a750",
  "1-a6e4 1-a499 1-a431 1-a3d0 1-a1f9 1-a192 1-9dd7 1-9dce 1-99a9 1-98d6 1-98b1 1-984e 1-94f2",
  "1-9460 1-93b2 1-91bf 1-8cce 1-8c2c 1-8b25 1-88da 1-881e 1-8628 1-81ba 1-810e 1-8104 1-8106",
  "1-80ff 1-80fa 1-80f4 2-80c5 1-8014 1-7fd4 1-7e96 1-7c63 1-7c4f 1-7c18 1-7ae8 1-7a56 1-786f",
  "2=8279 1-7608 1-7150 1-70cb 1-6f61 1-6f2a 1-6d91 1-6d5d 1-6ab0 1-6a2f 1-6385 1-626a 1-622f",
  "1-99f6 1+14882 1-7855 2x 1-ac4a 1-a8bc 1-a90a 1-aaf3 1-a92f 1-a8f5 1-a7af 1-a77d 1-a4db",
  "1-a524 1-a4e1 1-a499 1-a222 1-a1ca 1-a13a 1-a12b 1-a01e 1-9f59 1-9bb0 1-9baa 1-9b1b 1-9ad8",
  "1-99ae 1-9939 1-9980 1-98fb 1-992a 1-9899 1-9858 1-96c9 1-9672 1-963d 1-953a 1-941d 1-937b",
  "1-9378 1-933e 1-8f1c 1-8edc 1-8d56 1-8bbd 1-8bce 1-8b78 1-8a7d 1-892e 1-82f6 1-8869 1-87f0",
  "1-8776 1-8630 1-859c 1-8568 1-8487 1-8486 1-83dc 1-83cc 1-83b4 1-835f 1-836a 1-81df 1-7ffb",
  "1-7eed 1-7e33 1-7d54 1-7cbc 1-7b73 1-7aad 1-7761 1-76c5 1-733c 1-7175 1-7131 1-7122 1-6ffa",
  "1-6fc2 1-6ff0 1-6fbb 1-6fbf 1-6fd1 1-6f86 1-6f36 1-6db9 1-6b8a 1-6a51 1-692b 1-684f 1-644a",
  "1-63e4 1-6372 1-62ee 1-62cb 1-62c0 1-6291 1-5fbb 1-5b32 1+12d7b 1+12d74 1+13904 1-bf35",
  "1-babb 1-ba9b 1+15774 1+161fa 1+183fc 1-5b95 1-5b4b 26x 1=66.66 1=66.69 1=66.6c 1=66.66.69",
  "1=66.66.6c 2=73.74 cx 1=574.576 1=574.565 1=574.56b 1=57e.576 1=574.56d 5x 1=5d9.5b4 1v",
  "1=5f2.5b7 1-f53e 1-f551 2-f54f 3-f549 1-f53f 1-f53e 1-fafe 1=5e9.5c1 1=5e9.5c2",
  "1=5e9.5bc.5c1 1=5e9.5bc.5c2 1=5d0.5b7 1=5d0.5b8 1=5d0.5bc 1=5d1.5bc 1=5d2.5bc 1=5d3.5bc",
  "1=5d4.5bc 1=5d5.5bc 1=5d6.5bc 1x 1=5d8.5bc 1=5d9.5bc 1=5da.5bc 1=5db.5bc 1=5dc.5bc 1x",
  "1=5de.5bc 1x 1=5e0.5bc 1=5e1.5bc 1x 1=5e3.5bc 1=5e4.5bc 1x 1=5e6.5bc 1=5e7.5bc 1=5e8.5bc",
  "1=5e9.5bc 1=5ea.5bc 1=5d5.5b9 1=5d1.5bf 1=5db.5bf 1=5e4.5bf 1=5d0.5dc 2=671 4=67b 4=67e",
  "4=680 4=67a 4=67f 4=679 4=6a4 4=6a6 4=684 4=683 4=686 4=687 2=68d 2=68c 2=68e 2=688 2=698",
  "2=691 4=6a9 4=6af 4=6b3 4=6b1 2=6ba 4=6bb 2=6c0 4=6c1 4=6be 2=6d2 2=6d3 21v 4=6ad 2=6c7",
  "2=6c6 2=6c8 1=6c7.674 2=6cb 2=6c5 2=6c9 4=6d0 2=649 2=626.627 2=626.6d5 2=626.648 2=626.6c7",
  "2=626.6c6 2=626.6c8 3=626.6d0 3=626.649 4=6cc 1=626.62c 1=626.62d 1=626.645 1=626.649",
  "1=626.64a 1=628.62c 1=628.62d 1=628.62e 1=628.645 1=628.649 1=628.64a 1=62a.62c 1=62a.62d",
  "1=62a.62e 1=62a.645 1=62a.649 1=62a.64a 1=62b.62c 1=62b.645 1=62b.649 1=62b.64a 1=62c.62d",
  "1=62c.645 1=62d.62c 1=62d.645 1=62e.62c 1=62e.62d 1=62e.645 1=633.62c 1=633.62d 1=633.62e",
  "1=633.645 1=635.62d 1=635.645 1=636.62c 1=636.62d 1=636.62e 1=636.645 1=637.62d 1=637.645",
  "1=638.645 1=639.62c 1=639.645 1=63a.62c 1=63a.645 1=641.62c 1=641.62d 1=641.62e 1=641.645",
  "1=641.649 1=641.64a 1=642.62d 1=642.645 1=642.649 1=642.64a 1=643.627 1=643.62c 1=643.62d",
  "1=643.62e 1=643.644 1=643.645 1=643.649 1=643.64a 1=644.62c 1=644.62d 1=644.62e 1=644.645",
  "1=644.649 1=644.64a 1=645.62c 1=645.62d 1=645.62e 1=645.645 1=645.649 1=645.64a 1=646.62c",
  "1=646.62d 1=646.62e 1=646.645 1=646.649 1=646.64a 1=647.62c 1=647.645 1=647.649 1=647.64a",
  "1=64a.62c 1=64a.62d 1=64a.62e 1=64a.645 1=64a.649 1=64a.64a 1=630.670 1=631.670 1=649.670",
  "1=20.64c.651 1=20.64d.651 1=20.64e.651 1=20.64f.651 1=20.650.651 1=20.651.670 1=626.631",
  "1=626.632 1=626.645 1=626.646 1=626.649 1=626.64a 1=628.631 1=628.632 1=628.645 1=628.646",
  "1=628.649 1=628.64a 1=62a.631 1=62a.632 1=62a.645 1=62a.646 1=62a.649 1=62a.64a 1=62b.631",
  "1=62b.632 1=62b.645 1=62b.646 1=62b.649 1=62b.64a 1=641.649 1=641.64a 1=642.649 1=642.64a",
  "1=643.627 1=643.644 1=643.645 1=643.649 1=643.64a 1=644.645 1=644.649 1=644.64a 1=645.627",
  "1=645.645 1=646.631 1=646.632 1=646.645 1=646.646 1=646.649 1=646.64a 1=649.670 1=64a.631",
  "1=64a.632 1=64a.645 1=64a.646 1=64a.649 1=64a.64a 1=626.62c 1=626.62d 1=626.62e 1=626.645",
  "1=626.647 1=628.62c 1=628.62d 1=628.62e 1=628.645 1=628.647 1=62a.62c 1=62a.62d 1=62a.62e",
  "1=62a.645 1=62a.647 1=62b.645 1=62c.62d 1=62c.645 1=62d.62c 1=62d.645 1=62e.62c 1=62e.645",
  "1=633.62c 1=633.62d 1=633.62e 1=633.645 1=635.62d 1=635.62e 1=635.645 1=636.62c 1=636.62d",
  "1=636.62e 1=636.645 1=637.62d 1=638.645 1=639.62c 1=639.645 1=63a.62c 1=63a.645 1=641.62c",
  "1=641.62d 1=641.62e 1=641.645 1=642.62d 1=642.645 1=643.62c 1=643.62d 1=643.62e 1=643.644",
  "1=643.645 1=644.62c 1=644.62d 1=644.62e 1=644.645 1=644.647 1=645.62c 1=645.62d 1=645.62e",
  "1=645.645 1=646.62c 1=646.62d 1=646.62e 1=646.645 1=646.647 1=647.62c 1=647.645 1=647.670",
  "1=64a.62c 1=64a.62d 1=64a.62e 1=64a.645 1=64a.647 1=626.645 1=626.647 1=628.645 1=628.647",
  "1=62a.645 1=62a.647 1=62b.645 1=62b.647 1=633.645 1=633.647 1=634.645 1=634.647 1=643.644",
  "1=643.645 1=644.645 1=646.645 1=646.647 1=64a.645 1=64a.647 1=640.64e.651 1=640.64f.651",
  "1=640.650.651 1=637.649 1=637.64a 1=639.649 1=639.64a 1=63a.649 1=63a.64a 1=633.649",
  "1=633.64a 1=634.649 1=634.64a 1=62d.649 1=62d.64a 1=62c.649 1=62c.64a 1=62e.649 1=62e.64a",
  "1=635.649 1=635.64a 1=636.649 1=636.64a 1=634.62c 1=634.62d 1=634.62e 1=634.645 1=634.631",
  "1=633.631 1=635.631 1=636.631 1=637.649 1=637.64a 1=639.649 1=639.64a 1=63a.649 1=63a.64a",
  "1=633.649 1=633.64a 1=634.649 1=634.64a 1=62d.649 1=62d.64a 1=62c.649 1=62c.64a 1=62e.649",
  "1=62e.64a 1=635.649 1=635.64a 1=636.649 1=636.64a 1=634.62c 1=634.62d 1=634.62e 1=634.645",
  "1=634.631 1=633.631 1=635.631 1=636.631 1=634.62c 1=634.62d 1=634.62e 1=634.645 1=633.647",
  "1=634.647 1=637.645 1=633.62c 1=633.62d 1=633.62e 1=634.62c 1=634.62d 1=634.62e 1=637.645",
  "1=638.645 2=627.64b 12v 1=62a.62c.645 2=62a.62d.62c 1=62a.62d.645 1=62a.62e.645",
  "1=62a.645.62c 1=62a.645.62d 1=62a.645.62e 2=62c.645.62d 1=62d.645.64a 1=62d.645.649",
  "1=633.62d.62c 1=633.62c.62d 1=633.62c.649 2=633.645.62d 1=633.645.62c 2=633.645.645",
  "2=635.62d.62d 1=635.645.645 2=634.62d.645 1=634.62c.64a 2=634.645.62e 2=634.645.645",
  "1=636.62d.649 2=636.62e.645 2=637.645.62d 1=637.645.645 1=637.645.64a 1=639.62c.645",
  "2=639.645.645 1=639.645.649 1=63a.645.645 1=63a.645.64a 1=63a.645.649 2=641.62e.645",
  "1=642.645.62d 1=642.645.645 1=644.62d.645 1=644.62d.64a 1=644.62d.649 2=644.62c.62c",
  "2=644.62e.645 2=644.645.62d 1=645.62d.62c 1=645.62d.645 1=645.62d.64a 1=645.62c.62d",
  "1=645.62c.645 1=645.62e.62c 1=645.62e.645 2v 1=645.62c.62e 1=647.645.62c 1=647.645.645",
  "1=646.62d.645 1=646.62d.649 2=646.62c.645 1=646.62c.649 1=646.645.64a 1=646.645.649",
  "2=64a.645.645 1=628.62e.64a 1=62a.62c.64a 1=62a.62c.649 1=62a.62e.64a 1=62a.62e.649",
  "1=62a.645.64a 1=62a.645.649 1=62c.645.64a 1=62c.62d.649 1=62c.645.649 1=633.62e.649",
  "1=635.62d.64a 1=634.62d.64a 1=636.62d.64a 1=644.62c.64a 1=644.645.64a 1=64a.62d.64a",
  "1=64a.62c.64a 1=64a.645.64a 1=645.645.64a 1=642.645.64a 1=646.62d.64a 1=642.645.62d",
  "1=644.62d.645 1=639.645.64a 1=643.645.64a 1=646.62c.62d 1=645.62e.64a 1=644.62c.645",
  "1=643.645.645 1=644.62c.645 1=646.62c.62d 1=62c.62d.64a 1=62d.62c.64a 1=645.62c.64a",
  "1=641.645.64a 1=628.62d.64a 1=643.645.645 1=639.62c.645 1=635.645.645 1=633.62e.64a",
  "1=646.62c.64a 8v 20x 1=635.644.6d2 1=642.644.6d2 1=627.644.644.647 1=627.643.628.631",
  "1=645.62d.645.62f 1=635.644.639.645 1=631.633.648.644 1=639.644.64a.647 1=648.633.644.645",
  "1=635.644.649 1=635.644.649.20.627.644.644.647.20.639.644.64a.647.20.648.633.644.645",
  "1=62c.644.20.62c.644.627.644.647 1=631.6cc.627.644 3v 10i 1-fde4 1-ce10 1x 2-fdd9 1-fdf4",
  "1-fdd7 2-ce01 7x 10v 1x 1-de1d 1-de1f 2=5f 2-fe0d 1-fdbc 1-fdbb 2-ce25 2-ce2b 2-ce33 2-ce37",
  "4-ce35 2v 1-fdec 1-fdeb 4=20.305 3=5f 1-fe24 1-ce50 2x 1-fe19 1-fe1b 1-fe17 1-fe36 1-de44",
  "2-fe31 1-fde0 1-fddf 2-ce49 1-fe3c 1-fe3a 2-fe37 1-fe36 1-fe28 1-fe27 1-fe29 1x 1-fe0c",
  "2-fe45 1-fe2b 4x 1=20.64b 1=640.64b 1=20.64c 1v 1=20.64d 1x 1=20.64e 1=640.64e 1=20.64f",
  "1=640.64f 1=20.650 1=640.650 1=20.651 1=640.651 1=20.652 1=640.652 2-f85f 2-f860 2-f861",
  "2-f862 2-f863 3=626 2=627 4=628 2=629 4=62a 4=62b 4=62c 4=62d 4=62e 2=62f 2=630 2=631 2=632",
  "4=633 4=634 4=635 4=636 4=637 4=638 4=639 4=63a 4=641 4=642 4=643 4=644 4=645 4=646 4=647",
  "2=648 2=649 4=64a 2=644.622 2=644.623 2=644.625 2=644.627 2x 1i 1x 20-fee0 1a-fec0 24-fee0",
  "2-d5da 1-ff33 2-cf56 1-cf63 1-ce6a 1-ce74 1-cec6 1-cec5 1-cec4 1-cec3 1-cec2 1-ce89 1-ce88",
  "1-ce87 1-ceac 1-ce74 1-cecf 1-cece 1-cecd 1-cecc 2-cecb 1-ceca 1-cec9 1-cec8 1-cec7 1-cec6",
  "1-cec5 1-cec4 1-cec3 1-cec2 1-cec1 1-cec0 1-cebe 1-cebd 1-cebc 6-cebb 1-ceb9 1-ceb7 1-ceb5",
  "1-ceb3 5-ceb1 1-ceb0 1-ceaf 6-ceae 1-cead 1-ceaa 2-cf05 1i 2-eea1 1-edf9 1-eea2 2-edf9",
  "3-eea4 6-edfa 1-ee96 3-eeab 1-ee93 a-eeac 3x 6-ee61 2x 6-ee63 2x 6-ee65 2x 3-ee67 3x 2-ff3e",
  "1-ff36 1=20.304 1-ff3e 1-ff40 1-df3d 1x 1-dae6 4-de59 1-da4d 1-da23 11x cv 1x 1av 1x 13v 1x",
  "2v 1x fv 2x ev 22x 7bv 5x 3v 4x 2dv 3x 58v 1x dv 3x 1v 2fx 2ev 82x 1dv 3x 31v fx 1cv 4x 24v",
  "9x 1ev 5x 2bv 5x 1ev 1x 25v 4x ev 2ax 28+28 76v 2x av 6x 24+28 4x 24v 4x 28v 8x 34v bx 1v",
  "b+27 1x f+27 1x 7+27 1x 2+27 1x bv 1x fv 1x 7v 1x 2v 3x 34v cx 137v 9x 16v ax 8v 18x 1v",
  "2-104b1 1-1069d 1-104eb 1-10532 1x 1-104e4 1-5c22 1-104e4 1-104e6 2-10535 1-e9fc 1-10536",
  "1-10531 1-104e7 1-1052d 1-10530 1-10533 1-104f9 1-1066e 1-104fa 1-10530 1-10514 2-104ef",
  "1-1052f 1+d768 1-600f 1-10530 1+d766 1-10512 1+d765 1-106aa 2-1052d 1-10734 1-1052c 1+d761",
  "2-1052b 1-1052a 1-10503 1-10506 1-5c46 1-10507 1-10527 1-db3f 1x 1-10523 2-10512 1-1051d",
  "3-105f6 1+d751 1+d764 45x 6v 2x 1v 1x 2cv 1x 2v 3x 1v 2x 17v 1x 48v 8x 9v 30x 13v 1x 2v 5x",
  "21v 3x 1bv 5x 1bv 26x 38v 4x 14v 2x 32v 1x 2v 5x 8v 1x 3v 1x 1dv 2x 3v 4x av 7x 9v 7x 40v",
  "20x 27v 4x cv 9x 36v 3x 1dv 2x 1bv 5x 1av 7x 4v cx 7v 50x 49v 37x 33+40 dx 33v 7x 2ev 8x av",
  "6x 10v 16+20 3x 1dv 8x 2v d0x 1fv 1x 2av 1x 3v 2x 2v 10x 6v 8x 9v 21x 2ev 8x 2av 16x 1av",
  "26x 1cv 14x 17v 9x 4ev 4x 24v 9x 3ev 1x 5v dx 19v 7x av 6x 35v 1x 12v 8x 27v 9x 60v 1x 14v",
  "bx 12v 1x 2fv 3ex 7v 1x 1v 1x 4v 1x fv 1x bv 6x 3bv 5x av 6x 4v 1x 8v 2x 2v 2x 16v 1x 7v 1x",
  "2v 1x 5v 1x av 2x 2v 2x 3v 2x 1v 6x 1v 5x 7v 2x 7v 3x 5v bx av 1x 1v 2x 1v 1x 26v 1x av 1x",
  "1v 2x 1v 1x 4v 1x av 1x 2v 8x 2v 1dx 5cv 1x 5v 1ex 48v 8x av a6x 36v 2x 26v 22x 45v bx av",
  "6x dv 13x 3av 6x av 6x 14v 1cx 1bv 2x fv 4x 17v b9x 3cv 64x 20+20 33v cx 8v 2x 1v 2x 8v 1x",
  "2v 1x 1ev 1x 2v 2x cv 9x av 46x 8v 2x 2ev 2x bv 1bx 48v 8x 53v dx 49v 7x av 56x 8v 58x 22v",
  "ex av 6x 9v 1x 2dv 1x ev ax 1dv 3x 20v 2x 16v 1x ev 49x 7v 1x 2v 1x 2cv 3x 1v 1x 2v 1x 9v",
  "8x av 6x 6v 1x 2v 1x 25v 1x 2v 1x 6v 7x av 6x 2cv 4x av f6x 19v 7x 11v 1x 29v 3x 1dv 55x 1v",
  "fx 32v dx 39bv 66x 6fv 1x 5v bx c4v a4cx 63v dx 430v 10x 16v ax f9bv 5x 247v 1ab9x 3av 6c6x",
  "239v 7x 1fv 1x av 4x 51v 1x av 6x 1ev 2x 6v ax 46v ax av 1x 7v 1x 15v 5x 13v 1b0x 3av c6x",
  "20+20 3bv 5x 19+1b 2x 19v 2cx 4bv 4x 39v 7x 11v 40x 5v bx 7v 9x 1cd6v 29x 20v 61x 73v 21fdx",
  "4v 1x 7v 1x 2v 1x 123v fx 1v 1dx 3v 2x 1v ex 4v 8x 18cv 904x 6bv 5x dv 3x 9v 7x av 2x 4v 4i",
  "f5cx d6v 1a-1cc75 a-1ccc0 3v 3x 1b4v 6x 17v fx 11v fx 2ev 2x 17v 9x 74v 3cx f6v ax 27v 2x",
  "35v 1=1d157.1d165 1=1d158.1d165 1=1d158.1d165.1d16e 1=1d158.1d165.1d16f 1=1d158.1d165.1d170",
  "1=1d158.1d165.1d171 1=1d158.1d165.1d172 ev 8i 40v 1=1d1b9.1d165 1=1d1ba.1d165",
  "1=1d1b9.1d165.1d16e 1=1d1ba.1d165.1d16e 1=1d1b9.1d165.1d16f 1=1d1ba.1d165.1d16f 2av 15x 46v",
  "7ax 14v cx 14v cx 57v 9x 19v 87x 1a-1d39f 1a-1d3b9 1a-1d3d3 7-1d3ed 1x 12-1d3ed 1a-1d407",
  "1a-1d421 1-1d43b 1x 2-1d43b 2x 1-1d43b 2x 2-1d43b 2x 4-1d43b 1x 8-1d43b 4-1d455 1x 1-1d455",
  "1x 7-1d455 1x b-1d455 1a-1d46f 1a-1d489 2-1d4a3 1x 4-1d4a3 2x 8-1d4a3 1x 7-1d4a3 1x",
  "1a-1d4bd 2-1d4d7 1x 4-1d4d7 1x 5-1d4d7 1x 1-1d4d7 3x 7-1d4d7 1x 1a-1d4f1 1a-1d50b 1a-1d525",
  "1a-1d53f 1a-1d559 1a-1d573 1a-1d58d 1a-1d5a7 1a-1d5c1 1a-1d5db 1a-1d5f5 1a-1d60f 1a-1d629",
  "1-1d573 1-1d46e 2x 11-1d2f7 1-1d301 7-1d2f7 1-1b4ba 11-1d311 2=3c3 6-1d311 1-1b4d9 1-1d327",
  "1-1d325 1-1d324 1-1d319 1-1d31f 1-1d321 11-1d331 1-1d33b 7-1d331 1-1b4f4 11-1d34b 2=3c3",
  "6-1d34b 1-1b513 1-1d361 1-1d35f 1-1d35e 1-1d353 1-1d359 1-1d35b 11-1d36b 1-1d375 7-1d36b",
  "1-1b52e 11-1d385 2=3c3 6-1d385 1-1b54d 1-1d39b 1-1d399 1-1d398 1-1d38d 1-1d393 1-1d395",
  "11-1d3a5 1-1d3af 7-1d3a5 1-1b568 11-1d3bf 2=3c3 6-1d3bf 1-1b587 1-1d3d5 1-1d3d3 1-1d3d2",
  "1-1d3c7 1-1d3cd 1-1d3cf 11-1d3df 1-1d3e9 7-1d3df 1-1b5a2 11-1d3f9 2=3c3 6-1d3f9 1-1b5c1",
  "1-1d40f 1-1d40d 1-1d40c 1-1d401 1-1d407 1-1d409 2=3dd 2x a-1d79e a-1d7a8 a-1d7b2 a-1d7bc",
  "a-1d7c6 28cv fx 5v 1x fv 450x 1fv 6x 6v d5x 7v 1x 11v 2x 7v 1x 2v 1x 5v 5x 9-1dc00 3-1dbff",
  "b-1dbfe 1-1dbfc 2-1dbfb 1-139c1 1-1db72 1-1dbf6 1-1dbf5 1-1db65 1-1dba0 1-1db81 9-1dc21",
  "2-1dc20 2-1dc1e 1-1dc1d 6-1dc1c 2-1dc1b 1-1dbd6 1-1dc12 1-1dc14 1-1dc0b 1-1dbc0 1-13a1b",
  "1-1dbbc 21x 1v 70x 2dv 3x ev 2x av 4x 2v 140x 1fv 11x 3av 5x 1v 1d0x 2av d6x 2bv 4x 1v c0x",
  "1fv 1x 16v 8x 2v e0x 7v 1x 4v 1x 2v 1x fv 1x c5v 2x 10v 29x 22+22 2av 4x av 4x 2v 311x 44v",
  "4cx 3dv c2x 2-1e7d9 1-1e7d6 1-1e7d4 1x 1-1e7bd 1-1e7d4 1-1e7da 1-1e7d1 1-1e7bf 4-1e7c7",
  "1-1e7db 1-1e7d6 1-1e7cf 1-1e7dc 1-1e7d0 1-1e7e2 1-1e7e0 2-1e7eb 1-1e7e9 1-1e7e8 1-1e7e3",
  "1-1e7e2 1-1e7e1 1-1e7ae 1-1e763 1-1e77d 1-1e7b0 1x 1-1e7f9 1-1e7f6 1x 1-1e7dd 2x 1-1e7fa 1x",
  "1-1e7df 4-1e7e7 1-1e7fb 1-1e7f6 1-1e7ef 1-1e7fc 1-1e7f0 1x 1-1e800 2-1e80b 1-1e809 1x",
  "1-1e803 1x 1-1e801 6x 1-1e816 4x 1-1e81a 1x 1-1e7ff 1x 1-1e807 1x 1-1e807 1-1e81b 1-1e816",
  "1x 1-1e81c 1-1e810 1x 1-1e820 2x 1-1e829 1x 1-1e823 1x 1-1e821 1x 1-1e7a3 1x 1-1e7f0 1x",
  "1-1e839 1-1e836 1x 1-1e81d 2x 1-1e83a 1-1e831 1-1e81f 1-1e827 1x 2-1e827 1-1e83b 1-1e836",
  "1-1e82f 1-1e83c 1-1e830 1x 1-1e840 2-1e84b 1-1e849 1x 1-1e843 1-1e842 1-1e841 1-1e80e 1x",
  "1-1e7dd 1x 2-1e859 1-1e856 1-1e854 2-1e83d 1-1e854 1-1e85a 1-1e851 1-1e83f 1x 3-1e847",
  "1-1e85b 1-1e856 1-1e84f 1-1e85c 1-1e850 1-1e862 1-1e860 2-1e86b 1-1e869 1-1e868 1-1e863",
  "1-1e862 1-1e861 5x 1-1e879 1-1e876 1-1e874 1x 1-1e85d 1-1e874 1-1e87a 1-1e871 1-1e85f 1x",
  "3-1e867 1-1e87b 1-1e876 1-1e86f 1-1e87c 1-1e870 1-1e882 1-1e880 2-1e88b 1-1e889 1-1e888",
  "1-1e883 1-1e882 1-1e881 34x 2v 10ex 2cv 4x 64v cx fv 2x fv 1x fv 1x 25v bx 1=30.2c 1=31.2c",
  "1=32.2c 1=33.2c 1=34.2c 1=35.2c 1=36.2c 1=37.2c 1=38.2c 1=39.2c 5v 1=28.61.29 1=28.62.29",
  "1=28.63.29 1=28.64.29 1=28.65.29 1=28.66.29 1=28.67.29 1=28.68.29 1=28.69.29 1=28.6a.29",
  "1=28.6b.29 1=28.6c.29 1=28.6d.29 1=28.6e.29 1=28.6f.29 1=28.70.29 1=28.71.29 1=28.72.29",
  "1=28.73.29 1=28.74.29 1=28.75.29 1=28.76.29 1=28.77.29 1=28.78.29 1=28.79.29 1=28.7a.29",
  "1=3014.73.3015 1-1f0c8 1-1f0ba 1=63.64 1=77.7a 1v 1a-1f0cf 1=68.76 1=6d.76 1=73.64 1=73.73",
  "1=70.70.76 1=77.63 1av 1=6d.63 1=6d.64 1=6d.72 23v 1=64.6a 1dv 38x 1av 1=307b.304b",
  "1=30b3.30b3 1-1c14d dx 1-18fc5 1-196ba 1-19e46 1-1c14c 1-1a388 1-198fb 1-16833 1-198ee",
  "1-1a374 1-18bf9 1-180f9 1-18c82 1-19fcf 1-19291 1-1a091 1-18c6f 1-1a003 1-174df 1-17d03",
  "1-1657a 1-19934 1-19dec 1-18312 1-18f92 1-18ed3 1-1a429 1-1a421 1-161e1 1-19446 1-1a400",
  "1-19e3b 1-18f28 1-164c0 1-18fde 1-178b1 1-177b9 1-19e2c 1-183b5 1-18b2d 1-18b2f 1-17d05",
  "1-19fc7 1-19c84 1-160ee 4x 1=3014.672c.3015 1=3014.4e09.3015 1=3014.4e8c.3015",
  "1=3014.5b89.3015 1=3014.70b9.3015 1=3014.6253.3015 1=3014.76d7.3015 1=3014.52dd.3015",
  "1=3014.6557.3015 7x 1-192b9 1-19e62 ex 6v 9ax 3d9v 3x 11v 3x dv 3x dav 6x cv 4x 1v fx cv 4x",
  "38v 8x av 6x 28v 8x 1ev 2x cv 4x 2v ex 9v 27x 158v 8x ev 2x dv 3x bv 3x 39v 1x 1v 4x 10v 2x",
  "cv 4x av 7x 93v 1x 5cv a-1fbc0 1v 405x a6e0v 20x 111ev 2x 168ev 2x 1d31v fx 26ev 9a2x",
  "1-2a9c3 1-2a9c9 1-2a9c1 1-f6e1 1-2a8a4 1-2a857 1-2a84b 1-2a805 1-2a78e 1-2a770 1-2a723",
  "1-2a73c 1-2c36e 1-f1d3 1-2a6c1 1-2a6bb 1-2a6ac 1-2a69a 1-f2f6 1-2c35a 1-2a6ad 1-2a688",
  "1-f2cb 1-2a680 1-2a674 1-2a94d 1-2a66e 1-2a666 1-663d 1-2a628 1-2a61b 1-2c340 1-2a5e5",
  "1-2a5db 1-2a5b0 1-2a5ac 1-2c30f 1-2a55e 1-2a55d 1-2a543 1-2a52e 2-2a524 1-2a514 1-2a4e3",
  "1-2a4dc 1-2a4d4 1-2a4bc 1-2a4b3 3=537f 1-ee08 1-287c5 1-2a46c 1-2a458 1-ecd5 1-2a44e",
  "1-2a449 1-2a435 1-2a39e 1-2a405 1-2a3f6 1-2a3d7 1-2a39e 1-2a34b 1-2a332 1-2a2f0 1-2a2e1",
  "2=5584 1-2a2ae 1-2a29d 1-2a296 1-2a288 1-2a135 1-2a246 1-2a136 1-2a1fd 1-2a1db 1-2a649",
  "1-29f63 1-2a084 1-2a05f 1-2a047 1-2a0ca 1-2a024 1-2a026 1-29fac 1-e375 1-29f68 1-29f64",
  "1-29f56 1-29f43 1-29f3c 1-29efd 1-e1b8 1-e177 1-29e76 1-29e48 1-29e3d 1-29e8d 1-29e00",
  "1-2c179 1-2c16c 1-29d61 2=5b3e 1-dea4 1-29caa 1-29c96 1-29c88 1-29c7d 1-dd59 1-29c73",
  "1-29c6d 1-29921 1-29c53 1-2c0f5 1-29c17 1-29c0a 1-29bb9 1-29bed 1-da97 1-29b39 1-da97",
  "1-29b10 1-29b14 1-29b04 2-29aa0 1-2c054 1-29a87 1-29a5d 1-29a49 1-29a1e 1-2c026 1-d706",
  "1-2c00e 1-299db 1-299d9 1-299d7 1-299c4 1-54fd 1-29992 2=22331 1-27692 2=5f22 1-2bfcf",
  "1-c5df 1-96be 1-29937 1-2992f 1-2bfb8 1-29902 1-298d0 1-298c7 1-298a6 1-2981f 1-2bf67",
  "1-2bf86 1-2980f 1-d1d0 1-297de 1-2975e 1-2975b 1-2975a 1-2975d 1-29730 1-2971d 1-296fa",
  "1-29709 1-296ff 1-296d1 1-296be 1-296bb 1-296a2 1-29698 1-29657 1-29604 1-295e2 1-29567",
  "1-cdac 1-2957c 1-295be 1-29553 1-29539 1-294d9 1-cccd 1-2949d 1-294fb 1-29518 1-2be94",
  "1-2945a 1-29446 1-29428 1-2944f 1-2be5b 1-29379 1-2935d 1-c8c0 1-292e8 1-291d4 1-29284",
  "1-2bdb5 1-2923e 1-2bdc8 1-2bded 1-2a740 1-2a73e 1-291d4 1-29239 1-27829 1-2b4fe 1-291c1",
  "1-291be 1-291b9 1-2917d 1-29189 1-c51a 1-2bd95 1-290e5 1-2915b 1-2908f 1-2905d 1-c476",
  "1-29056 1-290c6 1-28fd2 1-2bd4a 1-28fa6 1-28f46 1-28f00 1-28e43 1-c249 1-28e12 1-2bcd6",
  "1-28dce 1-c049 1-28d9d 1-2bca4 1-28d81 1-28d55 2-28d3b 1-be6a 1-dbed 1-bdff 1-28cac 1-bc3f",
  "1-28c3d 1-28c30 1-28c97 1-28be9 1-28bc2 1-28b8a 1-28bc1 1-28b9a 1-28b8c 1-28b80 1-bbe8",
  "1-28bd3 1-28ad9 1-28a9b 1-2bbd7 1-28a40 1-28a45 1-ba3c 1-28b15 1-289a1 1-b9b2 1-b983",
  "1-2894c 1-288da 1-288f6 1-288fa 1-2bb80 1-288cd 1-2889b 1-288a2 1-2886d 1-f3f6 1-287d7",
  "1-b6ba 1-28782 1-b574 1-286f8 1-286ec 1-286d2 1-b31b 1-286a4 1-28690 1-b1f1 1-b113 1-285ae",
  "1-2859e 1-2ba7e 1-28586 2=3eb8 1-284e7 1-284d3 1-284bf 1-284ac 1-28468 1-2ba18 1-28410",
  "1-acff 1-283f8 1-aca5 1-283c8 1-d79a 1-2832a 1-a99a 1-a984 1-a8f9 1-2b942 1-2b937 1-2824c",
  "1-a84e 1-a850 1-a82a 1-a811 2-28227 1-28228 1-281fe 1-2b910 1-281bf 1-2b905 1-2b8b6 1-a530",
  "1-28100 1-280c3 1-28084 1-2b86e 1-a32c 1-27ffd 1-a2ba 1-a290 1-27fc7 1-27f6c 1-2b829",
  "1-27f19 1-27f10 1-27f0c 1-9fe0 2=25aa7 1-27e71 1-2b75e 1-9db6 1-27d9c 1-27d9a 1-2b73d",
  "1-9ce5 1-27c94 1-2b6c7 1-27c80 1-27c86 1-27c6a 1-99e5 1-27c09 1-2b66c 1-27ba7 1-27b6d",
  "1-27b2b 1-2b63d 1-974a 1-972c 1-2b61b 1-969c 1-279fc 1-9639 1-279e3 1-2797f 1-27975 1-94a1",
  "1-9459 1-2791d 1-93d6 1-2790f 1-c621 1-2b5ac 1-278d0 1-27880 1-2b579 1-27847 1-29ed1 1-91e0",
  "1-91d3 1-c5f6 1-c5ee 1-2778a 1-27788 1-269ef 1-2b523 1-276fe 1-27705 1-276f4 1-2a6df",
  "1-276e2 1-276e1 1-276d8 1-276b0 1-8e5b 1-276b3 1-2767c 1-27637 1-275ee 1-27679 1-275e0",
  "1-275b7 1-27548 1-2764d 1-275d7 1-275d6 1-275c7 1-8d6e 1-8c3a 1-8cd1 1-2b47c 1-274b7",
  "1-274b6 1-27494 1-85e1 1-27448 1-8a81 1-2b451 1-2b44e 1-89ff 1-88df 1-2b447 1-27363 1-27358",
  "1-2734e 1-2734d 1-2730e 1-27330 1-272ab 1-272d8 1-27242 1-27294 1-27252 1-27238 1-2b3e8",
  "1-271df 1-271c0 1-2b3c9 1-27163 1-27161 1-835e 1-270ef 1-270e9 1-2b393 1-270cf 1-2c50f",
  "1-811d 1-8066 1-2b30f 1-2b307 1-26f2f 1-26ee3 1-26e47 1-26d7d 1-7d2b 1-26d29 1-26d14",
  "1-26cbb 1-26c60 1-7aa9 1-f1d5 1-26c0f 1-26c1f 1-26bec 1-f0ff 1-26b0a 1-26aa7 1-740e 1-73f4",
  "1-2694e 1-268f2 1-268d3 1-72b7 1-268cb 1-267af 2-26711 1-2676e 1-265f2 1-265d7 1-6df3",
  "1-26463 1-2b05a 1-26439 1-6c7a 1-2b00c 1-26330 1-29c42 1-262d2 1-68b1 1-67dd 1-2af8a",
  "1-2af83 1-2621a 1-65f1 1-2af4a 1-6567 2=980b 1-261d7 1-644b 1-26120 1-2aed0 1-260db 1-2605e",
  "1-26044 1-26009 1-2ae3a 1-5ed9 1-25ef8 1-25dcb 1-25d0f 1-2ad3f 1-2ad21 1-25ca8 1-5942",
  "1-2ad19 1-590d 1-5805 1-5783 1-25b5a 1-2acc0 1-25b1e 1-25b1a 1-25b14 1-25b0b 1-25b05",
  "1-25ae1 1-541d 5e2x 134bv 5x 212av acc86x f0i 2fe10x"]

/-- The rules of the characters from `U+0080` on. -/
def rules : Text.Runs Rule := Text.Runs.ofLines Rule.read 0x80 mappingLines

/-- What the rule makes of a character; `offset` is its place in its run. -/
def Rule.apply? (offset : Nat) (c : Char) : Rule → Option (List Char)
  | .kept => some [c]
  | .dropped => some []
  | .refused => none
  | .up n => some [Char.ofNat (c.toNat + n)]
  | .down n => some [Char.ofNat (c.toNat - n)]
  | .pairs => some [Char.ofNat (c.toNat + (offset + 1) % 2)]
  | .text cs => some cs

/-- What becomes of a character. ASCII letters become small, other ASCII characters stay. -/
def mapChar? (c : Char) : Option (List Char) :=
  if c.toNat < 0x80 then some [c.toLower]
  else match Text.Runs.run? 0x80 rules c.toNat with
    | some (start, rule) => rule.apply? (c.toNat - start) c
    | none => none

/-- What becomes of a text, unless one of its characters is refused. -/
def mapText? (cs : List Char) : Option (List Char) := (cs.mapM mapChar?).map List.flatten

/-- Whether a character stays as it is. -/
def isKept (c : Char) : Bool := mapChar? c == some [c]

end Roster.Domain.Mapping
