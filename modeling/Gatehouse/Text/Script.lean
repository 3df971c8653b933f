import Gatehouse.Text.Chart

/-!
# Scripts

The scripts by which some characters choose their neighbours. Unicode 14.0, letters of names only.
-/

namespace Gatehouse.Script

def greek : Chart := Chart.ofLines
  ["371 373 375 377 37B-37D 390 3AC-3CE 3D7 3D9 3DB 3DD 3DF 3E1 3F3 3F8 3FB-3FC 1D26-1D2A",
   "1F00-1F07 1F10-1F15 1F20-1F27 1F30-1F37 1F40-1F45 1F50-1F57 1F60-1F67 1F70 1F72 1F74 1F76",
   "1F78 1F7A 1F7C 1FB0-1FB1 1FB6 1FC6 1FD0-1FD2 1FD6-1FD7 1FE0-1FE2 1FE4-1FE7 1FF6 AB65"]

def hebrew : Chart := Chart.ofLines
  ["591-5BD 5BF 5C1-5C2 5C4-5C5 5C7 5D0-5EA 5EF-5F4 FB1E"]

/-- Hiragana, Katakana and Han. -/
def japanese : Chart := Chart.ofLines
  ["3005 3007 3041-3096 309D-309E 30A1-30FA 30FD-30FE 31F0-31FF 3400-4DBF 4E00-9FFF FA0E-FA0F",
   "FA11 FA13-FA14 FA1F FA21 FA23-FA24 FA27-FA29 16FE3 16FF0-16FF1 1AFF0-1AFF3 1AFF5-1AFFB",
   "1AFFD-1AFFE 1B000-1B122 1B150-1B152 1B164-1B167 20000-2A6DF 2A700-2B738 2B740-2B81D",
   "2B820-2CEA1 2CEB0-2EBE0 30000-3134A"]

end Gatehouse.Script
