import TypedDocument.Text.Script

/-!
# Characters of several scripts

Some marks, digits and signs are written in a few scripts but belong to none or only one of them.
-/

namespace TypedDocument

/-- Characters that are used in just the scripts with the given codes. -/
structure SharedCharacters where
  scripts : List String
  ranges : CharRanges

namespace SharedCharacters

/-- All characters whose scripts are listed. -/
def all : List SharedCharacters :=
  [⟨["grek"], .ofTable "342 345 1DC0-1DC1"⟩,
   ⟨["latn"], .ofTable "363-36F"⟩,
   ⟨["cyrl", "perm"], .ofTable "483"⟩,
   ⟨["cyrl", "glag"], .ofTable "484 487 2E43 A66F"⟩,
   ⟨["cyrl", "latn"], .ofTable "485-486"⟩,
   ⟨["arab", "nkoo", "rohg", "syrc", "thaa", "yezi"], .ofTable "60C 61B"⟩,
   ⟨["arab", "syrc", "thaa"], .ofTable "61C"⟩,
   ⟨["adlm", "arab", "nkoo", "rohg", "syrc", "thaa", "yezi"], .ofTable "61F"⟩,
   ⟨["adlm", "arab", "mand", "mani", "ougr", "phlp", "rohg", "sogd", "syrc"], .ofTable "640"⟩,
   ⟨["arab", "syrc"], .ofTable "64B-655 670"⟩,
   ⟨["arab", "thaa", "yezi"], .ofTable "660-669"⟩,
   ⟨["arab", "rohg"], .ofTable "6D4"⟩,
   ⟨["beng", "deva", "gran", "gujr", "guru", "knda", "latn", "mlym", "orya", "shrd", "taml", "telu", "tirh"],
     .ofTable "951"⟩,
   ⟨["beng", "deva", "gran", "gujr", "guru", "knda", "latn", "mlym", "orya", "taml", "telu", "tirh"], .ofTable "952"⟩,
   ⟨["beng", "deva", "dogr", "gong", "gonm", "gran", "gujr", "guru", "knda", "mahj", "mlym", "nand", "orya", "sind",
     "sinh", "sylo", "takr", "taml", "telu", "tirh"], .ofTable "964"⟩,
   ⟨["beng", "deva", "dogr", "gong", "gonm", "gran", "gujr", "guru", "knda", "limb", "mahj", "mlym", "nand", "orya",
     "sind", "sinh", "sylo", "takr", "taml", "telu", "tirh"], .ofTable "965"⟩,
   ⟨["deva", "dogr", "kthi", "mahj"], .ofTable "966-96F"⟩,
   ⟨["beng", "cakm", "sylo"], .ofTable "9E6-9EF"⟩,
   ⟨["guru", "mult"], .ofTable "A66-A6F"⟩,
   ⟨["gujr", "khoj"], .ofTable "AE6-AEF"⟩,
   ⟨["gran", "taml"], .ofTable "BE6-BF3 11301:11303 1133B-1133C 11FD0-11FD1 11FD3"⟩,
   ⟨["knda", "nand"], .ofTable "CE6-CEF"⟩,
   ⟨["cakm", "mymr", "tale"], .ofTable "1040-1049"⟩,
   ⟨["geor", "latn"], .ofTable "10FB"⟩,
   ⟨["buhd", "hano", "tagb", "tglg"], .ofTable "1735-1736"⟩,
   ⟨["mong", "phag"], .ofTable "1802-1803 1805"⟩,
   ⟨["beng", "deva", "gran", "knda"], .ofTable "1CD0:1CD2"⟩,
   ⟨["deva"], .ofTable "1CD1 1CD4 1CDB 1CDE-1CDF 1CE2-1CE8 1CEB-1CEC 1CEE-1CF1"⟩,
   ⟨["deva", "gran"], .ofTable "1CD3 1CF3 1CF8-1CF9"⟩,
   ⟨["beng", "deva"], .ofTable "1CD5-1CD6 1CD8 1CE1 1CEA 1CED 1CF5-1CF6 A8F1"⟩,
   ⟨["deva", "shrd"], .ofTable "1CD7:1CD9 1CDC-1CDD 1CE0"⟩,
   ⟨["deva", "knda", "mlym", "orya", "taml", "telu"], .ofTable "1CDA"⟩,
   ⟨["deva", "nand"], .ofTable "1CE9"⟩,
   ⟨["beng", "deva", "gran", "knda", "nand", "orya", "telu", "tirh"], .ofTable "1CF2"⟩,
   ⟨["deva", "gran", "knda"], .ofTable "1CF4"⟩,
   ⟨["beng"], .ofTable "1CF7"⟩,
   ⟨["nand"], .ofTable "1CFA"⟩,
   ⟨["cyrl", "syrc"], .ofTable "1DF8"⟩,
   ⟨["syrc"], .ofTable "1DFA"⟩,
   ⟨["latn", "mong"], .ofTable "202F"⟩,
   ⟨["deva", "gran", "latn"], .ofTable "20F0"⟩,
   ⟨["bopo", "hang", "hani", "hira", "kana", "yiii"], .ofTable "3001-3002 3008-3011 3014-301B 30FB FF61-FF65"⟩,
   ⟨["bopo", "hang", "hani", "hira", "kana"], .ofTable "3003 3013 301C-301F 3030 3037 FE45-FE46"⟩,
   ⟨["hani"], .ofTable "
  3006 303E-303F 3190-319F 31C0-31E3 3220-3247 3280-32B0 32C0-32CB 32FF 3358-3370 337B-337F 33E0-33FE 1D360-1D371
  1F250-1F251"⟩,
   ⟨["bopo", "hani"], .ofTable "302A-302D"⟩,
   ⟨["hira", "kana"], .ofTable "3031-3035 3099-309C 30A0 30FC FF70 FF9E-FF9F"⟩,
   ⟨["hani", "hira", "kana"], .ofTable "303C-303D"⟩,
   ⟨["hani", "latn"], .ofTable "A700-A707"⟩,
   ⟨["deva", "dogr", "gujr", "guru", "khoj", "knda", "kthi", "mahj", "mlym", "modi", "nand", "sind", "takr", "tirh"],
     .ofTable "A830-A832"⟩,
   ⟨["deva", "dogr", "gujr", "guru", "khoj", "knda", "kthi", "mahj", "modi", "nand", "sind", "takr", "tirh"],
     .ofTable "A833-A835"⟩,
   ⟨["deva", "dogr", "gujr", "guru", "khoj", "kthi", "mahj", "modi", "sind", "takr", "tirh"], .ofTable "A836-A839"⟩,
   ⟨["deva", "taml"], .ofTable "A8F3"⟩,
   ⟨["kali", "latn", "mymr"], .ofTable "A92E"⟩,
   ⟨["bugi", "java"], .ofTable "A9CF"⟩,
   ⟨["arab", "nkoo"], .ofTable "FD3E-FD3F"⟩,
   ⟨["arab", "thaa"], .ofTable "FDF2 FDFD"⟩,
   ⟨["cpmn", "cprt", "linb"], .ofTable "10100-10101"⟩,
   ⟨["cprt", "linb"], .ofTable "10102 10137-1013F"⟩,
   ⟨["cprt", "lina", "linb"], .ofTable "10107-10133"⟩,
   ⟨["arab", "copt"], .ofTable "102E0-102FB"⟩,
   ⟨["mani", "ougr"], .ofTable "10AF2"⟩,
   ⟨["dupl"], .ofTable "1BCA0-1BCA3"⟩]

def points : CharRanges := all.flatMap fun s => s.ranges

/-- The listed characters that are used in the script with a code. -/
def usedIn (code : String) : CharRanges :=
  (all.filter fun s => s.scripts.contains code).flatMap fun s => s.ranges

end SharedCharacters

end TypedDocument
