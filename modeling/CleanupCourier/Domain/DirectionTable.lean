import CleanupCourier.Text.CodeRanges

/-!
Properties of characters that the rules for joiners and for right-to-left labels ask for: direction
classes, joining types and marks.
-/
namespace CleanupCourier

namespace Domain

/-- Strong left-to-right characters. -/
def leftToRight : CodeRanges := CodeRanges.ofSteps
  "65 26 6 26 47 1 10 1 4 1 5 23 1 31 1 449 2 7 14 2 14 5 9 1 129 4 2 2 2 4 1 1 6 1 1 3 1 1 1 20
  1 83 1 140 7 166 1 38 2 49 889 55 1 1 1 4 8 4 1 3 7 10 2 29 1 2 1 8 2 2 2 22 1 7 1 1 3 4 3 4
  6 2 2 2 1 1 8 1 4 2 1 3 4 12 2 7 1 2 5 1 1 6 4 2 2 22 1 7 1 2 1 2 1 2 4 3 24 4 1 1 7 10 2 3 1
  1 12 1 1 9 1 3 1 22 1 7 1 2 1 5 3 4 8 1 1 2 3 1 15 2 4 11 8 1 8 2 1 8 2 2 2 22 1 7 1 2 1 5 3
  2 1 1 6 2 2 2 10 1 4 2 1 3 4 18 11 1 1 6 3 3 1 4 3 2 1 1 1 2 3 2 3 3 3 12 4 2 1 2 3 3 1 3 3 1
  6 1 14 13 14 3 1 8 1 3 1 23 1 16 3 1 3 4 19 3 2 1 2 2 4 10 7 1 7 2 1 11 1 3 1 23 1 10 1 5 3 8
  1 3 1 2 9 2 6 2 1 2 4 10 1 3 14 11 1 3 1 41 2 4 5 3 1 3 1 2 4 14 4 26 2 2 1 18 3 24 1 9 1 1 2
  7 8 3 6 8 6 10 2 3 12 48 1 2 12 7 8 13 37 2 1 1 1 5 1 24 1 1 1 10 1 2 9 1 2 5 1 1 9 10 2 4 32
  24 2 27 1 1 1 1 5 10 1 36 18 1 5 1 2 5 49 8 1 6 1 13 37 45 4 1 6 1 2 2 2 25 2 4 3 16 4 13 1 2
  2 6 1 15 1 40 1 1 5 1 2 377 1 4 2 7 1 1 1 4 2 41 1 4 2 33 1 4 2 7 1 1 1 4 2 15 1 57 1 4 2 67
  5 29 3 16 16 86 2 6 3 639 1 26 5 89 7 18 3 1 9 19 2 3 9 18 14 13 1 3 15 52 2 1 7 8 1 2 11 7 1
  1 3 10 38 10 6 89 7 5 2 34 1 1 5 70 10 31 4 4 2 3 4 2 1 6 13 40 2 5 11 44 4 26 6 11 37 23 2 2
  3 56 1 1 9 1 1 2 8 6 13 10 6 10 6 14 86 48 1 1 5 1 1 5 1 10 3 27 9 11 3 32 4 2 2 1 3 56 1 1 2
  3 1 1 3 2 8 48 8 2 5 15 3 60 7 43 2 11 11 1 13 1 7 4 1 6 1 3 2 1 5 192 64 278 2 6 2 38 2 6 2
  8 1 1 1 1 1 1 1 31 2 53 1 7 1 1 3 3 1 7 3 4 2 6 4 13 5 3 1 7 17 1 98 1 13 1 16 13 101 1 4 1 2
  10 1 1 3 5 6 1 1 1 1 1 1 4 1 11 2 4 5 5 4 2 16 41 429 69 26 1 262 78 450 1 339 256 768 229 6
  4 3 2 12 38 1 1 5 1 2 56 7 2 15 23 9 7 1 7 1 7 1 7 1 7 1 7 1 7 1 7 550 3 25 9 4 2 1 5 2 5 4
  86 6 3 1 90 1 4 5 43 1 94 1 48 48 45 3 48 16 28 3 50 15 12 4 167 4 99 2 31 1 6592 64 22157 67
  317 3 28 20 47 17 30 2 80 2 6 42 102 1 66 5 2 1 1 1 5 24 16 1 3 1 4 1 25 2 1 8 8 8 52 12 68
  10 12 24 13 1 38 8 25 11 2 11 30 6 48 1 2 4 2 2 16 1 11 4 7 1 25 1 41 6 2 2 2 11 3 1 8 1 1 2
  10 2 32 1 51 1 1 3 2 2 5 2 1 1 1 24 17 2 8 11 6 2 6 2 6 9 7 1 7 1 58 6 117 1 2 1 4 3 10 6
  11172 12 23 4 49 2052 6766 2 106 38 7 12 5 1033 26 6 26 11 89 3 6 2 6 2 6 2 3 35 12 1 26 1 19
  1 2 1 15 2 14 34 123 5 1 1 1 4 45 3 9 77 2 65 45 131 29 3 49 47 36 9 30 5 38 10 30 1 37 4 14
  42 158 2 10 6 36 4 36 4 40 8 52 11 12 1 15 1 7 1 2 1 11 1 15 1 7 1 2 67 311 9 22 10 8 24 6 1
  42 1 9 2117 1 1 54 15 7 24 10 1 2 2 1 12 49 4 2 2 7 11 1 2 25 7 10 9 36 5 1 9 18 8 35 1 3 11
  52 9 10 4 2 1 16 1 20 11 18 1 28 3 2 1 1 2 6 1 2 63 7 1 1 1 4 1 15 1 11 6 47 1 3 13 10 8 2 1
  8 2 2 2 22 1 7 1 2 1 5 3 3 1 4 2 2 2 3 2 1 6 1 5 7 156 56 8 2 3 1 1 21 1 1 1 3 30 51 6 1 1 4
  2 1 2 4 8 10 166 50 6 4 2 1 2 27 36 51 8 2 1 1 2 4 11 10 38 43 1 1 1 2 6 1 1 2 6 10 54 27 5 2
  4 1 9 23 185 47 9 1 2 1 100 83 12 8 2 1 2 8 1 2 1 30 1 2 4 1 1 4 1 3 9 10 70 8 2 42 8 4 1 4
  27 1 6 2 2 40 6 2 4 8 9 1 6 2 3 46 13 1 2 9 13 73 7 10 246 9 1 38 14 8 10 29 3 32 25 1 7 1 2
  1 75 7 1 2 1 38 21 1 9 10 6 6 1 2 1 37 4 2 1 1 1 1 7 10 310 19 2 4 9 15 1 36 8 2 1 1 1 23 86
  1 15 21 42 923 102 111 1 5 11 196 2636 99 13 1088 1 6 4025 583 8633 569 7 31 1 10 4 81 1 10 6
  30 7 1 10 48 7 15 10 10 1 7 1 21 5 19 688 91 101 75 5 56 11 13 64 2 1 1 12 2 14 6136 8 1238
  42 9 8935 4 1 7 1 2 1 291 15 1 29 3 2 1 14 4 8 396 2308 107 5 13 3 9 7 10 2 1 2 1 4784 116 60
  246 10 39 2 62 3 9 16 2 7 30 4 59 215 20 12 20 108 25 135 85 1 71 1 2 2 1 2 2 2 4 1 12 1 1 1
  7 1 65 1 4 2 8 1 7 1 28 1 4 1 5 1 1 3 7 1 340 2 51 1 57 1 57 1 57 1 57 1 8 52 512 55 4 50 8 1
  14 1 7 1140 31 6 6 261 62 146 45 10 7 2 10 4 2 320 30 18 44 4 10 470 28 4 10 742 7 1 4 1 2 1
  15 2321 31 1 58 6 61 57 29 13 44 4 9 7 2 3502 42720 32 4154 6 222 2 5762 14 7473 3103 542
  1506 4939 5 4192 777296 65534 2 65534"

/-- Strong right-to-left characters, Arabic letters among them. -/
def rightToLeft : CodeRanges := CodeRanges.ofSteps
  "1470 1 1 1 2 1 2 1 9 27 4 6 19 1 2 1 1 1 13 48 34 3 1 101 15 2 7 2 10 20 1 2 1 30 29 89 11 1
  14 43 9 2 4 1 3 24 4 1 9 1 3 1 7 15 1 25 5 1 1 11 5 31 17 42 5957 1 56077 1 1 10 1 13 1 5 1 1
  1 2 1 2 1 125 16 363 18 64 2 54 40 13 115 5 1 135 2307 6 2 1 1 44 1 2 3 1 2 23 1 72 8 9 48 19
  1 2 5 33 4 26 5 1 64 56 4 20 2 47 15 4 1 3 1 29 10 9 7 9 7 64 32 37 6 12 9 54 10 22 2 27 5 26
  7 4 12 7 80 73 55 51 13 51 7 42 348 42 3 1 2 2 78 40 8 22 11 9 22 18 4 4 38 28 20 23 55305
  197 2 9 48 68 7 1 4 10 4 2 785 68 76 61 194 4 1 27 1 2 1 1 2 1 1 10 1 4 1 1 1 1 6 1 4 1 1 1 1
  1 1 3 1 2 1 1 2 1 1 1 1 1 1 1 1 1 1 2 1 1 2 4 1 7 1 4 1 4 1 1 1 10 1 17 5 3 1 5 1 17"

def arabicNumbers : CodeRanges := CodeRanges.ofSteps
  "1536 6 90 10 1 2 112 1 434 2 80 1 66637 10 294 31"

def europeanNumbers : CodeRanges := CodeRanges.ofSteps
  "48 10 120 2 5 1 1590 10 6518 1 3 6 6 10 1022 20 55924 10 967 27 54482 50 6400 11 2789 10"

/-- Separators, terminators, other neutrals and boundary neutrals. -/
def neutrals : CodeRanges := CodeRanges.ofSteps
  "0 9 5 14 5 15 10 7 26 6 26 10 1 36 1 7 2 1 1 3 2 5 23 1 31 1 449 2 7 14 2 14 5 9 1 17 116 2 8
  1 5 2 1 1 110 1 403 1 2 3 118 2 1 2 1 1 1 2 90 1 115 1 10 1 268 4 504 2 7 1 245 1 257 8 125 7
  448 1 250 4 1106 10 102 1 666 2 318 1 20 10 6 11 3 1 305 1 3 2 152 34 1469 1 1 3 11 3 13 3 13
  3 13 2 12 3 2 24 7 48 1 5 5 6 10 5 11 5 17 33 63 2 1 4 1 2 10 1 1 3 5 6 1 1 1 1 1 1 4 1 11 2
  4 5 5 4 2 16 41 3 4 422 69 26 1 145 25 11 21 40 98 450 1 339 256 628 2 32 1 105 229 6 14 7
  256 94 34 26 1 89 12 214 26 12 5 4 3 25 15 1 5 2 5 3 91 2 3 1 90 1 196 36 57 2 49 16 28 3 50
  15 12 4 167 4 99 2 31 1 6592 64 22160 55 326 3 99 1 10 2 128 34 102 1 159 4 12 2 58 4 754 2
  20413 1 532 18 127 1 45 3 16 10 22 35 1 19 1 4 147 1 1 15 10 7 26 6 26 11 122 7 1 7 10 5 259
  1 62 77 3 13 3 1 1918 1 537 7 1298 20 1530 13 2408 29 20464 1 19645 4 5327 8 110 2 21 66 3 1
  186 87 900 1 57 1 57 1 57 1 57 1 2875 1 3056 2 270 44 4 100 12 15 2 15 1 15 1 37 21 5 31 1 58
  6 61 1 178 6 154 984 4 17 3 13 3 119 4 95 6 12 4 1 15 12 4 56 8 10 6 40 8 30 2 2 78 340 12 14
  2 13 3 9 7 46 1 7 8 14 4 9 7 9 7 147 1 55 787510 1 30 96"

def nonspacingMarks : CodeRanges := CodeRanges.ofSteps
  "768 112 275 7 263 45 1 1 1 2 1 2 1 1 72 11 48 21 16 1 101 7 2 6 2 2 1 4 35 1 30 27 91 11 58 9
  9 1 24 4 1 9 1 3 1 5 43 3 60 8 42 24 1 32 55 1 1 1 4 8 4 1 3 7 10 2 29 1 58 1 4 4 8 1 20 2 26
  1 2 2 57 1 4 2 4 2 2 3 3 1 30 2 3 1 11 2 57 1 4 5 1 2 4 1 20 2 22 6 1 1 58 1 2 1 1 4 8 1 7 2
  11 2 30 1 61 1 12 1 50 1 3 1 55 1 1 3 5 3 1 4 7 2 11 2 29 1 58 1 15 2 20 2 28 2 57 2 4 4 8 1
  20 2 29 1 72 1 7 3 1 1 90 1 2 7 12 8 98 1 2 9 11 7 73 2 27 1 1 1 1 1 55 14 1 5 1 2 5 11 1 36
  9 1 102 4 1 6 1 2 2 2 25 2 4 3 16 4 13 1 2 2 6 1 15 1 703 3 946 3 29 2 30 2 30 2 64 2 1 7 8 1
  2 11 9 1 45 3 1 1 117 2 34 1 118 3 4 2 9 1 6 3 219 2 2 1 58 1 1 7 1 1 1 1 2 8 6 10 2 1 48 31
  49 4 48 1 1 5 1 1 5 1 40 9 12 2 32 4 2 2 1 3 56 1 1 2 3 1 1 3 58 8 2 2 152 3 1 13 1 7 4 1 6 1
  3 2 198 64 720 33 3070 3 141 1 96 32 554 4 107 2 30164 4 1 10 32 2 80 2 272 1 3 1 4 1 25 2 5
  1 151 2 26 18 13 1 38 8 25 11 46 3 48 1 2 4 2 2 39 1 67 6 2 2 2 2 12 1 8 1 47 1 51 1 1 3 2 2
  5 2 1 1 42 2 8 1 238 1 2 1 4 1 20272 1 737 16 16 16 973 1 226 1 149 5 1670 3 1 2 5 4 40 3 4 1
  165 2 573 4 387 2 80 3 70 11 49 4 123 1 54 15 41 1 2 2 10 3 49 4 2 2 7 1 61 3 36 5 1 8 62 1
  12 2 52 9 10 4 2 1 95 3 2 1 1 2 6 1 2 1 157 1 3 8 21 2 57 2 3 1 37 7 3 5 195 8 2 3 1 1 23 1
  84 6 1 1 4 2 1 2 238 4 6 2 1 2 27 2 85 8 2 1 1 2 106 1 1 1 2 6 1 1 101 3 2 4 1 5 259 9 1 2
  256 2 1 1 4 1 144 4 2 2 4 1 32 6 2 2 40 6 2 4 8 1 9 6 2 3 46 13 1 2 406 7 1 6 84 22 2 7 1 2 1
  2 122 6 3 1 1 2 1 7 1 1 72 2 3 1 1 1 347 2 11 2 52 5 5 1 1 1 5373 1 6 15 13978 5 59 7 1048 1
  63 4 81 1 19640 2 4705 46 2 23 544 3 17 8 2 7 30 4 148 3 1979 55 4 50 8 1 14 1 22 5 1 15 1360
  7 1 17 2 7 1 2 1 5 100 1 160 7 375 1 61 4 508 4 992 7 109 7 792501 240"

/-- Characters that combine with the one before them. -/
def marks : CodeRanges := CodeRanges.ofSteps
  "768 112 275 7 263 45 1 1 1 2 1 2 1 1 72 11 48 21 16 1 101 7 2 6 2 2 1 4 35 1 30 27 91 11 58 9
  9 1 24 4 1 9 1 3 1 5 43 3 60 8 42 24 1 33 54 3 1 18 1 7 10 2 29 3 56 1 1 7 2 2 2 3 9 1 10 2
  26 1 2 3 56 1 1 5 4 2 2 3 3 1 30 2 3 1 11 3 56 1 1 8 1 3 1 3 20 2 22 6 1 3 56 1 1 7 2 2 2 3 7
  3 10 2 30 1 59 5 3 3 1 4 9 1 40 5 55 1 1 7 1 3 1 4 7 2 11 2 29 3 56 1 1 7 1 3 1 4 7 2 11 2 15
  1 12 4 55 2 1 7 1 3 1 4 9 1 10 2 29 3 70 1 4 6 1 1 1 8 18 2 61 1 2 7 12 8 98 1 2 9 11 7 73 2
  27 1 1 1 1 1 4 2 49 20 1 2 5 11 1 36 9 1 100 20 23 4 4 3 1 3 2 7 3 4 13 12 1 1 10 4 703 3 946
  4 28 3 29 2 30 2 64 32 9 1 45 3 1 1 117 2 34 1 118 12 4 12 219 5 57 10 1 29 2 1 48 31 49 5 47
  17 38 9 12 3 30 13 56 14 48 20 152 3 1 21 4 1 6 1 2 3 198 64 720 33 3070 3 141 1 96 32 554 6
  105 2 30164 4 1 10 32 2 80 2 272 1 3 1 4 1 23 5 4 1 83 2 50 18 26 18 13 1 38 8 25 13 44 4 47
  14 36 1 67 14 12 1 8 2 45 3 50 1 1 3 2 2 5 2 1 1 41 5 5 2 236 8 1 2 20272 1 737 16 16 16 973
  1 226 1 149 5 1670 3 1 2 5 4 40 3 4 1 165 2 573 4 387 2 80 3 70 11 49 4 122 3 53 15 41 1 2 2
  10 4 45 11 7 1 61 3 36 14 16 2 44 1 12 3 48 14 8 4 1 2 92 12 6 1 2 1 157 12 21 4 55 2 1 7 2 2
  2 3 9 1 10 2 2 7 3 5 192 18 23 1 81 20 235 7 2 9 27 2 82 17 106 13 101 15 256 15 245 6 1 2 2
  4 1 1 1 2 141 7 2 7 3 1 28 10 40 7 1 4 8 1 9 11 46 16 405 8 1 8 82 22 1 14 122 6 3 1 1 2 1 7
  1 1 66 5 1 2 1 5 347 4 9 2 1 1 48 7 3 5 5373 1 6 15 13978 5 59 7 1048 1 1 55 7 4 81 1 11 2
  19627 2 4705 46 2 23 542 5 3 6 8 8 2 7 30 4 148 3 1979 55 4 50 8 1 14 1 22 5 1 15 1360 7 1 17
  2 7 1 2 1 5 100 1 160 7 375 1 61 4 508 4 992 7 109 7 792501 240"

/-- Characters that join to the one after them. -/
def joiningLeft : CodeRanges := CodeRanges.ofSteps
  "1568 1 5 1 1 1 1 5 4 13 1 7 1 2 35 2 8 16 18 38 1 2 9 1 1 1 1 2 40 3 2 1 18 3 5 4 1 9 1 1 1 1
  1 2 31 11 3 15 2 4 1 1 2 3 2 6 74 33 86 5 2 1 1 10 1 1 10 1 1 4 2 1 29 1 2 5 18 10 5 2 2 6 1
  15 3902 1 24 89 14 34 1 1 36757 51 25165 5 8 1 5 10 1 3 10 4 145 1 1 1 3 3 1 2 1 1 2 1 28 2
  337 34 1 1 524 3 1 17 12 3 28 4 2 12 46 1 1 2 4 1 2 2 1 2 1 1 2 1 5 2 55604 68"

/-- Characters that join to the one before them. -/
def joiningRight : CodeRanges := CodeRanges.ofSteps
  "1568 1 1 30 1 10 35 2 1 3 1 95 1 1 24 2 10 3 2 1 16 1 1 30 29 51 74 33 85 25 7 1 1 4 1 4 5 19
  3 1 2 6 17 13 1 27 3902 1 24 89 14 34 1 1 36757 50 25166 6 1 1 1 2 3 9 1 10 2 1 6 5 144 18 23
  6 338 35 524 21 12 4 27 18 46 1 1 5 1 8 1 4 4 2 55605 68"

/-- Characters that joining passes over. -/
def transparent : CodeRanges := CodeRanges.ofSteps
  "173 1 594 112 275 7 263 45 1 1 1 2 1 2 1 1 72 11 1 1 46 21 16 1 101 7 2 6 2 2 1 4 33 1 1 1 30
  27 91 11 58 9 9 1 24 4 1 9 1 3 1 5 43 3 60 8 42 24 1 32 55 1 1 1 4 8 4 1 3 7 10 2 29 1 58 1 4
  4 8 1 20 2 26 1 2 2 57 1 4 2 4 2 2 3 3 1 30 2 3 1 11 2 57 1 4 5 1 2 4 1 20 2 22 6 1 1 58 1 2
  1 1 4 8 1 7 2 11 2 30 1 61 1 12 1 50 1 3 1 55 1 1 3 5 3 1 4 7 2 11 2 29 1 58 1 2 1 6 1 5 2 20
  2 28 2 57 2 4 4 8 1 20 2 29 1 72 1 7 3 1 1 90 1 2 7 12 8 98 1 2 9 11 7 73 2 27 1 1 1 1 1 55
  14 1 5 1 2 5 11 1 36 9 1 102 4 1 6 1 2 2 2 25 2 4 3 16 4 13 1 2 2 6 1 15 1 703 3 946 3 29 2
  30 2 30 2 64 2 1 7 8 1 2 11 9 1 45 3 1 1 117 2 34 1 118 3 4 2 9 1 6 3 219 2 2 1 58 1 1 7 1 1
  1 1 2 8 6 10 2 1 48 31 49 4 48 1 1 5 1 1 5 1 40 9 12 2 32 4 2 2 1 3 56 1 1 2 3 1 1 3 58 8 2 2
  152 3 1 13 1 7 4 1 6 1 3 2 198 64 523 1 2 2 26 5 49 5 5 6 96 33 3070 3 141 1 96 32 554 4 107
  2 30164 4 1 10 32 2 80 2 272 1 3 1 4 1 25 2 5 1 151 2 26 18 13 1 38 8 25 11 46 3 48 1 2 4 2 2
  39 1 67 6 2 2 2 2 12 1 8 1 47 1 51 1 1 3 2 2 5 2 1 1 42 2 8 1 238 1 2 1 4 1 20272 1 737 16 16
  16 207 1 249 3 513 1 226 1 149 5 1670 3 1 2 5 4 40 3 4 1 165 2 573 4 387 2 80 3 70 11 49 4
  123 1 54 15 41 1 2 2 10 3 49 4 2 2 7 1 61 3 36 5 1 8 62 1 12 2 52 9 10 4 2 1 95 3 2 1 1 2 6 1
  2 1 157 1 3 8 21 2 57 2 3 1 37 7 3 5 195 8 2 3 1 1 23 1 84 6 1 1 4 2 1 2 238 4 6 2 1 2 27 2
  85 8 2 1 1 2 106 1 1 1 2 6 1 1 101 3 2 4 1 5 259 9 1 2 256 2 1 1 4 1 144 4 2 2 4 1 32 10 40 6
  2 4 8 1 9 6 2 3 46 13 1 2 406 7 1 6 1 1 82 22 2 7 1 2 1 2 122 6 3 1 1 2 1 7 1 1 72 2 3 1 1 1
  347 2 11 2 52 5 5 1 1 1 5357 17 6 15 13978 5 59 7 1048 1 63 4 81 1 19640 2 1 4 4700 46 2 23
  544 3 9 16 2 7 30 4 148 3 1979 55 4 50 8 1 14 1 22 5 1 15 1360 7 1 17 2 7 1 2 1 5 100 1 160 7
  375 1 61 4 508 4 992 7 109 8 792245 1 30 96 128 240"

end Domain

end CleanupCourier
