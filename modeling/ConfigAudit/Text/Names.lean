/-
# Names of characters

Characters can be named in a pattern.  The table holds the names of the common blocks (basic and
extended Latin, Greek, Cyrillic, punctuation, arrows, mathematical signs) and of the controls.

* `characterNamed?` : the code point of a name, in any case.
-/
import ConfigAudit.Text.Table

namespace ConfigAudit.Text

/-- One name on each line, behind its code point. -/
def nameTable : String := "20 SPACE
21 EXCLAMATION MARK
22 QUOTATION MARK
23 NUMBER SIGN
24 DOLLAR SIGN
25 PERCENT SIGN
26 AMPERSAND
27 APOSTROPHE
28 LEFT PARENTHESIS
29 RIGHT PARENTHESIS
2a ASTERISK
2b PLUS SIGN
2c COMMA
2d HYPHEN-MINUS
2e FULL STOP
2f SOLIDUS
30 DIGIT ZERO
31 DIGIT ONE
32 DIGIT TWO
33 DIGIT THREE
34 DIGIT FOUR
35 DIGIT FIVE
36 DIGIT SIX
37 DIGIT SEVEN
38 DIGIT EIGHT
39 DIGIT NINE
3a COLON
3b SEMICOLON
3c LESS-THAN SIGN
3d EQUALS SIGN
3e GREATER-THAN SIGN
3f QUESTION MARK
40 COMMERCIAL AT
41 LATIN CAPITAL LETTER A
42 LATIN CAPITAL LETTER B
43 LATIN CAPITAL LETTER C
44 LATIN CAPITAL LETTER D
45 LATIN CAPITAL LETTER E
46 LATIN CAPITAL LETTER F
47 LATIN CAPITAL LETTER G
48 LATIN CAPITAL LETTER H
49 LATIN CAPITAL LETTER I
4a LATIN CAPITAL LETTER J
4b LATIN CAPITAL LETTER K
4c LATIN CAPITAL LETTER L
4d LATIN CAPITAL LETTER M
4e LATIN CAPITAL LETTER N
4f LATIN CAPITAL LETTER O
50 LATIN CAPITAL LETTER P
51 LATIN CAPITAL LETTER Q
52 LATIN CAPITAL LETTER R
53 LATIN CAPITAL LETTER S
54 LATIN CAPITAL LETTER T
55 LATIN CAPITAL LETTER U
56 LATIN CAPITAL LETTER V
57 LATIN CAPITAL LETTER W
58 LATIN CAPITAL LETTER X
59 LATIN CAPITAL LETTER Y
5a LATIN CAPITAL LETTER Z
5b LEFT SQUARE BRACKET
5c REVERSE SOLIDUS
5d RIGHT SQUARE BRACKET
5e CIRCUMFLEX ACCENT
5f LOW LINE
60 GRAVE ACCENT
61 LATIN SMALL LETTER A
62 LATIN SMALL LETTER B
63 LATIN SMALL LETTER C
64 LATIN SMALL LETTER D
65 LATIN SMALL LETTER E
66 LATIN SMALL LETTER F
67 LATIN SMALL LETTER G
68 LATIN SMALL LETTER H
69 LATIN SMALL LETTER I
6a LATIN SMALL LETTER J
6b LATIN SMALL LETTER K
6c LATIN SMALL LETTER L
6d LATIN SMALL LETTER M
6e LATIN SMALL LETTER N
6f LATIN SMALL LETTER O
70 LATIN SMALL LETTER P
71 LATIN SMALL LETTER Q
72 LATIN SMALL LETTER R
73 LATIN SMALL LETTER S
74 LATIN SMALL LETTER T
75 LATIN SMALL LETTER U
76 LATIN SMALL LETTER V
77 LATIN SMALL LETTER W
78 LATIN SMALL LETTER X
79 LATIN SMALL LETTER Y
7a LATIN SMALL LETTER Z
7b LEFT CURLY BRACKET
7c VERTICAL LINE
7d RIGHT CURLY BRACKET
7e TILDE
a0 NO-BREAK SPACE
a1 INVERTED EXCLAMATION MARK
a2 CENT SIGN
a3 POUND SIGN
a4 CURRENCY SIGN
a5 YEN SIGN
a6 BROKEN BAR
a7 SECTION SIGN
a8 DIAERESIS
a9 COPYRIGHT SIGN
aa FEMININE ORDINAL INDICATOR
ab LEFT-POINTING DOUBLE ANGLE QUOTATION MARK
ac NOT SIGN
ad SOFT HYPHEN
ae REGISTERED SIGN
af MACRON
b0 DEGREE SIGN
b1 PLUS-MINUS SIGN
b2 SUPERSCRIPT TWO
b3 SUPERSCRIPT THREE
b4 ACUTE ACCENT
b5 MICRO SIGN
b6 PILCROW SIGN
b7 MIDDLE DOT
b8 CEDILLA
b9 SUPERSCRIPT ONE
ba MASCULINE ORDINAL INDICATOR
bb RIGHT-POINTING DOUBLE ANGLE QUOTATION MARK
bc VULGAR FRACTION ONE QUARTER
bd VULGAR FRACTION ONE HALF
be VULGAR FRACTION THREE QUARTERS
bf INVERTED QUESTION MARK
c0 LATIN CAPITAL LETTER A WITH GRAVE
c1 LATIN CAPITAL LETTER A WITH ACUTE
c2 LATIN CAPITAL LETTER A WITH CIRCUMFLEX
c3 LATIN CAPITAL LETTER A WITH TILDE
c4 LATIN CAPITAL LETTER A WITH DIAERESIS
c5 LATIN CAPITAL LETTER A WITH RING ABOVE
c6 LATIN CAPITAL LETTER AE
c7 LATIN CAPITAL LETTER C WITH CEDILLA
c8 LATIN CAPITAL LETTER E WITH GRAVE
c9 LATIN CAPITAL LETTER E WITH ACUTE
ca LATIN CAPITAL LETTER E WITH CIRCUMFLEX
cb LATIN CAPITAL LETTER E WITH DIAERESIS
cc LATIN CAPITAL LETTER I WITH GRAVE
cd LATIN CAPITAL LETTER I WITH ACUTE
ce LATIN CAPITAL LETTER I WITH CIRCUMFLEX
cf LATIN CAPITAL LETTER I WITH DIAERESIS
d0 LATIN CAPITAL LETTER ETH
d1 LATIN CAPITAL LETTER N WITH TILDE
d2 LATIN CAPITAL LETTER O WITH GRAVE
d3 LATIN CAPITAL LETTER O WITH ACUTE
d4 LATIN CAPITAL LETTER O WITH CIRCUMFLEX
d5 LATIN CAPITAL LETTER O WITH TILDE
d6 LATIN CAPITAL LETTER O WITH DIAERESIS
d7 MULTIPLICATION SIGN
d8 LATIN CAPITAL LETTER O WITH STROKE
d9 LATIN CAPITAL LETTER U WITH GRAVE
da LATIN CAPITAL LETTER U WITH ACUTE
db LATIN CAPITAL LETTER U WITH CIRCUMFLEX
dc LATIN CAPITAL LETTER U WITH DIAERESIS
dd LATIN CAPITAL LETTER Y WITH ACUTE
de LATIN CAPITAL LETTER THORN
df LATIN SMALL LETTER SHARP S
e0 LATIN SMALL LETTER A WITH GRAVE
e1 LATIN SMALL LETTER A WITH ACUTE
e2 LATIN SMALL LETTER A WITH CIRCUMFLEX
e3 LATIN SMALL LETTER A WITH TILDE
e4 LATIN SMALL LETTER A WITH DIAERESIS
e5 LATIN SMALL LETTER A WITH RING ABOVE
e6 LATIN SMALL LETTER AE
e7 LATIN SMALL LETTER C WITH CEDILLA
e8 LATIN SMALL LETTER E WITH GRAVE
e9 LATIN SMALL LETTER E WITH ACUTE
ea LATIN SMALL LETTER E WITH CIRCUMFLEX
eb LATIN SMALL LETTER E WITH DIAERESIS
ec LATIN SMALL LETTER I WITH GRAVE
ed LATIN SMALL LETTER I WITH ACUTE
ee LATIN SMALL LETTER I WITH CIRCUMFLEX
ef LATIN SMALL LETTER I WITH DIAERESIS
f0 LATIN SMALL LETTER ETH
f1 LATIN SMALL LETTER N WITH TILDE
f2 LATIN SMALL LETTER O WITH GRAVE
f3 LATIN SMALL LETTER O WITH ACUTE
f4 LATIN SMALL LETTER O WITH CIRCUMFLEX
f5 LATIN SMALL LETTER O WITH TILDE
f6 LATIN SMALL LETTER O WITH DIAERESIS
f7 DIVISION SIGN
f8 LATIN SMALL LETTER O WITH STROKE
f9 LATIN SMALL LETTER U WITH GRAVE
fa LATIN SMALL LETTER U WITH ACUTE
fb LATIN SMALL LETTER U WITH CIRCUMFLEX
fc LATIN SMALL LETTER U WITH DIAERESIS
fd LATIN SMALL LETTER Y WITH ACUTE
fe LATIN SMALL LETTER THORN
ff LATIN SMALL LETTER Y WITH DIAERESIS
100 LATIN CAPITAL LETTER A WITH MACRON
101 LATIN SMALL LETTER A WITH MACRON
102 LATIN CAPITAL LETTER A WITH BREVE
103 LATIN SMALL LETTER A WITH BREVE
104 LATIN CAPITAL LETTER A WITH OGONEK
105 LATIN SMALL LETTER A WITH OGONEK
106 LATIN CAPITAL LETTER C WITH ACUTE
107 LATIN SMALL LETTER C WITH ACUTE
108 LATIN CAPITAL LETTER C WITH CIRCUMFLEX
109 LATIN SMALL LETTER C WITH CIRCUMFLEX
10a LATIN CAPITAL LETTER C WITH DOT ABOVE
10b LATIN SMALL LETTER C WITH DOT ABOVE
10c LATIN CAPITAL LETTER C WITH CARON
10d LATIN SMALL LETTER C WITH CARON
10e LATIN CAPITAL LETTER D WITH CARON
10f LATIN SMALL LETTER D WITH CARON
110 LATIN CAPITAL LETTER D WITH STROKE
111 LATIN SMALL LETTER D WITH STROKE
112 LATIN CAPITAL LETTER E WITH MACRON
113 LATIN SMALL LETTER E WITH MACRON
114 LATIN CAPITAL LETTER E WITH BREVE
115 LATIN SMALL LETTER E WITH BREVE
116 LATIN CAPITAL LETTER E WITH DOT ABOVE
117 LATIN SMALL LETTER E WITH DOT ABOVE
118 LATIN CAPITAL LETTER E WITH OGONEK
119 LATIN SMALL LETTER E WITH OGONEK
11a LATIN CAPITAL LETTER E WITH CARON
11b LATIN SMALL LETTER E WITH CARON
11c LATIN CAPITAL LETTER G WITH CIRCUMFLEX
11d LATIN SMALL LETTER G WITH CIRCUMFLEX
11e LATIN CAPITAL LETTER G WITH BREVE
11f LATIN SMALL LETTER G WITH BREVE
120 LATIN CAPITAL LETTER G WITH DOT ABOVE
121 LATIN SMALL LETTER G WITH DOT ABOVE
122 LATIN CAPITAL LETTER G WITH CEDILLA
123 LATIN SMALL LETTER G WITH CEDILLA
124 LATIN CAPITAL LETTER H WITH CIRCUMFLEX
125 LATIN SMALL LETTER H WITH CIRCUMFLEX
126 LATIN CAPITAL LETTER H WITH STROKE
127 LATIN SMALL LETTER H WITH STROKE
128 LATIN CAPITAL LETTER I WITH TILDE
129 LATIN SMALL LETTER I WITH TILDE
12a LATIN CAPITAL LETTER I WITH MACRON
12b LATIN SMALL LETTER I WITH MACRON
12c LATIN CAPITAL LETTER I WITH BREVE
12d LATIN SMALL LETTER I WITH BREVE
12e LATIN CAPITAL LETTER I WITH OGONEK
12f LATIN SMALL LETTER I WITH OGONEK
130 LATIN CAPITAL LETTER I WITH DOT ABOVE
131 LATIN SMALL LETTER DOTLESS I
132 LATIN CAPITAL LIGATURE IJ
133 LATIN SMALL LIGATURE IJ
134 LATIN CAPITAL LETTER J WITH CIRCUMFLEX
135 LATIN SMALL LETTER J WITH CIRCUMFLEX
136 LATIN CAPITAL LETTER K WITH CEDILLA
137 LATIN SMALL LETTER K WITH CEDILLA
138 LATIN SMALL LETTER KRA
139 LATIN CAPITAL LETTER L WITH ACUTE
13a LATIN SMALL LETTER L WITH ACUTE
13b LATIN CAPITAL LETTER L WITH CEDILLA
13c LATIN SMALL LETTER L WITH CEDILLA
13d LATIN CAPITAL LETTER L WITH CARON
13e LATIN SMALL LETTER L WITH CARON
13f LATIN CAPITAL LETTER L WITH MIDDLE DOT
140 LATIN SMALL LETTER L WITH MIDDLE DOT
141 LATIN CAPITAL LETTER L WITH STROKE
142 LATIN SMALL LETTER L WITH STROKE
143 LATIN CAPITAL LETTER N WITH ACUTE
144 LATIN SMALL LETTER N WITH ACUTE
145 LATIN CAPITAL LETTER N WITH CEDILLA
146 LATIN SMALL LETTER N WITH CEDILLA
147 LATIN CAPITAL LETTER N WITH CARON
148 LATIN SMALL LETTER N WITH CARON
149 LATIN SMALL LETTER N PRECEDED BY APOSTROPHE
14a LATIN CAPITAL LETTER ENG
14b LATIN SMALL LETTER ENG
14c LATIN CAPITAL LETTER O WITH MACRON
14d LATIN SMALL LETTER O WITH MACRON
14e LATIN CAPITAL LETTER O WITH BREVE
14f LATIN SMALL LETTER O WITH BREVE
150 LATIN CAPITAL LETTER O WITH DOUBLE ACUTE
151 LATIN SMALL LETTER O WITH DOUBLE ACUTE
152 LATIN CAPITAL LIGATURE OE
153 LATIN SMALL LIGATURE OE
154 LATIN CAPITAL LETTER R WITH ACUTE
155 LATIN SMALL LETTER R WITH ACUTE
156 LATIN CAPITAL LETTER R WITH CEDILLA
157 LATIN SMALL LETTER R WITH CEDILLA
158 LATIN CAPITAL LETTER R WITH CARON
159 LATIN SMALL LETTER R WITH CARON
15a LATIN CAPITAL LETTER S WITH ACUTE
15b LATIN SMALL LETTER S WITH ACUTE
15c LATIN CAPITAL LETTER S WITH CIRCUMFLEX
15d LATIN SMALL LETTER S WITH CIRCUMFLEX
15e LATIN CAPITAL LETTER S WITH CEDILLA
15f LATIN SMALL LETTER S WITH CEDILLA
160 LATIN CAPITAL LETTER S WITH CARON
161 LATIN SMALL LETTER S WITH CARON
162 LATIN CAPITAL LETTER T WITH CEDILLA
163 LATIN SMALL LETTER T WITH CEDILLA
164 LATIN CAPITAL LETTER T WITH CARON
165 LATIN SMALL LETTER T WITH CARON
166 LATIN CAPITAL LETTER T WITH STROKE
167 LATIN SMALL LETTER T WITH STROKE
168 LATIN CAPITAL LETTER U WITH TILDE
169 LATIN SMALL LETTER U WITH TILDE
16a LATIN CAPITAL LETTER U WITH MACRON
16b LATIN SMALL LETTER U WITH MACRON
16c LATIN CAPITAL LETTER U WITH BREVE
16d LATIN SMALL LETTER U WITH BREVE
16e LATIN CAPITAL LETTER U WITH RING ABOVE
16f LATIN SMALL LETTER U WITH RING ABOVE
170 LATIN CAPITAL LETTER U WITH DOUBLE ACUTE
171 LATIN SMALL LETTER U WITH DOUBLE ACUTE
172 LATIN CAPITAL LETTER U WITH OGONEK
173 LATIN SMALL LETTER U WITH OGONEK
174 LATIN CAPITAL LETTER W WITH CIRCUMFLEX
175 LATIN SMALL LETTER W WITH CIRCUMFLEX
176 LATIN CAPITAL LETTER Y WITH CIRCUMFLEX
177 LATIN SMALL LETTER Y WITH CIRCUMFLEX
178 LATIN CAPITAL LETTER Y WITH DIAERESIS
179 LATIN CAPITAL LETTER Z WITH ACUTE
17a LATIN SMALL LETTER Z WITH ACUTE
17b LATIN CAPITAL LETTER Z WITH DOT ABOVE
17c LATIN SMALL LETTER Z WITH DOT ABOVE
17d LATIN CAPITAL LETTER Z WITH CARON
17e LATIN SMALL LETTER Z WITH CARON
17f LATIN SMALL LETTER LONG S
370 GREEK CAPITAL LETTER HETA
371 GREEK SMALL LETTER HETA
372 GREEK CAPITAL LETTER ARCHAIC SAMPI
373 GREEK SMALL LETTER ARCHAIC SAMPI
374 GREEK NUMERAL SIGN
375 GREEK LOWER NUMERAL SIGN
376 GREEK CAPITAL LETTER PAMPHYLIAN DIGAMMA
377 GREEK SMALL LETTER PAMPHYLIAN DIGAMMA
37a GREEK YPOGEGRAMMENI
37b GREEK SMALL REVERSED LUNATE SIGMA SYMBOL
37c GREEK SMALL DOTTED LUNATE SIGMA SYMBOL
37d GREEK SMALL REVERSED DOTTED LUNATE SIGMA SYMBOL
37e GREEK QUESTION MARK
37f GREEK CAPITAL LETTER YOT
384 GREEK TONOS
385 GREEK DIALYTIKA TONOS
386 GREEK CAPITAL LETTER ALPHA WITH TONOS
387 GREEK ANO TELEIA
388 GREEK CAPITAL LETTER EPSILON WITH TONOS
389 GREEK CAPITAL LETTER ETA WITH TONOS
38a GREEK CAPITAL LETTER IOTA WITH TONOS
38c GREEK CAPITAL LETTER OMICRON WITH TONOS
38e GREEK CAPITAL LETTER UPSILON WITH TONOS
38f GREEK CAPITAL LETTER OMEGA WITH TONOS
390 GREEK SMALL LETTER IOTA WITH DIALYTIKA AND TONOS
391 GREEK CAPITAL LETTER ALPHA
392 GREEK CAPITAL LETTER BETA
393 GREEK CAPITAL LETTER GAMMA
394 GREEK CAPITAL LETTER DELTA
395 GREEK CAPITAL LETTER EPSILON
396 GREEK CAPITAL LETTER ZETA
397 GREEK CAPITAL LETTER ETA
398 GREEK CAPITAL LETTER THETA
399 GREEK CAPITAL LETTER IOTA
39a GREEK CAPITAL LETTER KAPPA
39b GREEK CAPITAL LETTER LAMDA
39c GREEK CAPITAL LETTER MU
39d GREEK CAPITAL LETTER NU
39e GREEK CAPITAL LETTER XI
39f GREEK CAPITAL LETTER OMICRON
3a0 GREEK CAPITAL LETTER PI
3a1 GREEK CAPITAL LETTER RHO
3a3 GREEK CAPITAL LETTER SIGMA
3a4 GREEK CAPITAL LETTER TAU
3a5 GREEK CAPITAL LETTER UPSILON
3a6 GREEK CAPITAL LETTER PHI
3a7 GREEK CAPITAL LETTER CHI
3a8 GREEK CAPITAL LETTER PSI
3a9 GREEK CAPITAL LETTER OMEGA
3aa GREEK CAPITAL LETTER IOTA WITH DIALYTIKA
3ab GREEK CAPITAL LETTER UPSILON WITH DIALYTIKA
3ac GREEK SMALL LETTER ALPHA WITH TONOS
3ad GREEK SMALL LETTER EPSILON WITH TONOS
3ae GREEK SMALL LETTER ETA WITH TONOS
3af GREEK SMALL LETTER IOTA WITH TONOS
3b0 GREEK SMALL LETTER UPSILON WITH DIALYTIKA AND TONOS
3b1 GREEK SMALL LETTER ALPHA
3b2 GREEK SMALL LETTER BETA
3b3 GREEK SMALL LETTER GAMMA
3b4 GREEK SMALL LETTER DELTA
3b5 GREEK SMALL LETTER EPSILON
3b6 GREEK SMALL LETTER ZETA
3b7 GREEK SMALL LETTER ETA
3b8 GREEK SMALL LETTER THETA
3b9 GREEK SMALL LETTER IOTA
3ba GREEK SMALL LETTER KAPPA
3bb GREEK SMALL LETTER LAMDA
3bc GREEK SMALL LETTER MU
3bd GREEK SMALL LETTER NU
3be GREEK SMALL LETTER XI
3bf GREEK SMALL LETTER OMICRON
3c0 GREEK SMALL LETTER PI
3c1 GREEK SMALL LETTER RHO
3c2 GREEK SMALL LETTER FINAL SIGMA
3c3 GREEK SMALL LETTER SIGMA
3c4 GREEK SMALL LETTER TAU
3c5 GREEK SMALL LETTER UPSILON
3c6 GREEK SMALL LETTER PHI
3c7 GREEK SMALL LETTER CHI
3c8 GREEK SMALL LETTER PSI
3c9 GREEK SMALL LETTER OMEGA
3ca GREEK SMALL LETTER IOTA WITH DIALYTIKA
3cb GREEK SMALL LETTER UPSILON WITH DIALYTIKA
3cc GREEK SMALL LETTER OMICRON WITH TONOS
3cd GREEK SMALL LETTER UPSILON WITH TONOS
3ce GREEK SMALL LETTER OMEGA WITH TONOS
3cf GREEK CAPITAL KAI SYMBOL
3d0 GREEK BETA SYMBOL
3d1 GREEK THETA SYMBOL
3d2 GREEK UPSILON WITH HOOK SYMBOL
3d3 GREEK UPSILON WITH ACUTE AND HOOK SYMBOL
3d4 GREEK UPSILON WITH DIAERESIS AND HOOK SYMBOL
3d5 GREEK PHI SYMBOL
3d6 GREEK PI SYMBOL
3d7 GREEK KAI SYMBOL
3d8 GREEK LETTER ARCHAIC KOPPA
3d9 GREEK SMALL LETTER ARCHAIC KOPPA
3da GREEK LETTER STIGMA
3db GREEK SMALL LETTER STIGMA
3dc GREEK LETTER DIGAMMA
3dd GREEK SMALL LETTER DIGAMMA
3de GREEK LETTER KOPPA
3df GREEK SMALL LETTER KOPPA
3e0 GREEK LETTER SAMPI
3e1 GREEK SMALL LETTER SAMPI
3e2 COPTIC CAPITAL LETTER SHEI
3e3 COPTIC SMALL LETTER SHEI
3e4 COPTIC CAPITAL LETTER FEI
3e5 COPTIC SMALL LETTER FEI
3e6 COPTIC CAPITAL LETTER KHEI
3e7 COPTIC SMALL LETTER KHEI
3e8 COPTIC CAPITAL LETTER HORI
3e9 COPTIC SMALL LETTER HORI
3ea COPTIC CAPITAL LETTER GANGIA
3eb COPTIC SMALL LETTER GANGIA
3ec COPTIC CAPITAL LETTER SHIMA
3ed COPTIC SMALL LETTER SHIMA
3ee COPTIC CAPITAL LETTER DEI
3ef COPTIC SMALL LETTER DEI
3f0 GREEK KAPPA SYMBOL
3f1 GREEK RHO SYMBOL
3f2 GREEK LUNATE SIGMA SYMBOL
3f3 GREEK LETTER YOT
3f4 GREEK CAPITAL THETA SYMBOL
3f5 GREEK LUNATE EPSILON SYMBOL
3f6 GREEK REVERSED LUNATE EPSILON SYMBOL
3f7 GREEK CAPITAL LETTER SHO
3f8 GREEK SMALL LETTER SHO
3f9 GREEK CAPITAL LUNATE SIGMA SYMBOL
3fa GREEK CAPITAL LETTER SAN
3fb GREEK SMALL LETTER SAN
3fc GREEK RHO WITH STROKE SYMBOL
3fd GREEK CAPITAL REVERSED LUNATE SIGMA SYMBOL
3fe GREEK CAPITAL DOTTED LUNATE SIGMA SYMBOL
3ff GREEK CAPITAL REVERSED DOTTED LUNATE SIGMA SYMBOL
400 CYRILLIC CAPITAL LETTER IE WITH GRAVE
401 CYRILLIC CAPITAL LETTER IO
402 CYRILLIC CAPITAL LETTER DJE
403 CYRILLIC CAPITAL LETTER GJE
404 CYRILLIC CAPITAL LETTER UKRAINIAN IE
405 CYRILLIC CAPITAL LETTER DZE
406 CYRILLIC CAPITAL LETTER BYELORUSSIAN-UKRAINIAN I
407 CYRILLIC CAPITAL LETTER YI
408 CYRILLIC CAPITAL LETTER JE
409 CYRILLIC CAPITAL LETTER LJE
40a CYRILLIC CAPITAL LETTER NJE
40b CYRILLIC CAPITAL LETTER TSHE
40c CYRILLIC CAPITAL LETTER KJE
40d CYRILLIC CAPITAL LETTER I WITH GRAVE
40e CYRILLIC CAPITAL LETTER SHORT U
40f CYRILLIC CAPITAL LETTER DZHE
410 CYRILLIC CAPITAL LETTER A
411 CYRILLIC CAPITAL LETTER BE
412 CYRILLIC CAPITAL LETTER VE
413 CYRILLIC CAPITAL LETTER GHE
414 CYRILLIC CAPITAL LETTER DE
415 CYRILLIC CAPITAL LETTER IE
416 CYRILLIC CAPITAL LETTER ZHE
417 CYRILLIC CAPITAL LETTER ZE
418 CYRILLIC CAPITAL LETTER I
419 CYRILLIC CAPITAL LETTER SHORT I
41a CYRILLIC CAPITAL LETTER KA
41b CYRILLIC CAPITAL LETTER EL
41c CYRILLIC CAPITAL LETTER EM
41d CYRILLIC CAPITAL LETTER EN
41e CYRILLIC CAPITAL LETTER O
41f CYRILLIC CAPITAL LETTER PE
420 CYRILLIC CAPITAL LETTER ER
421 CYRILLIC CAPITAL LETTER ES
422 CYRILLIC CAPITAL LETTER TE
423 CYRILLIC CAPITAL LETTER U
424 CYRILLIC CAPITAL LETTER EF
425 CYRILLIC CAPITAL LETTER HA
426 CYRILLIC CAPITAL LETTER TSE
427 CYRILLIC CAPITAL LETTER CHE
428 CYRILLIC CAPITAL LETTER SHA
429 CYRILLIC CAPITAL LETTER SHCHA
42a CYRILLIC CAPITAL LETTER HARD SIGN
42b CYRILLIC CAPITAL LETTER YERU
42c CYRILLIC CAPITAL LETTER SOFT SIGN
42d CYRILLIC CAPITAL LETTER E
42e CYRILLIC CAPITAL LETTER YU
42f CYRILLIC CAPITAL LETTER YA
430 CYRILLIC SMALL LETTER A
431 CYRILLIC SMALL LETTER BE
432 CYRILLIC SMALL LETTER VE
433 CYRILLIC SMALL LETTER GHE
434 CYRILLIC SMALL LETTER DE
435 CYRILLIC SMALL LETTER IE
436 CYRILLIC SMALL LETTER ZHE
437 CYRILLIC SMALL LETTER ZE
438 CYRILLIC SMALL LETTER I
439 CYRILLIC SMALL LETTER SHORT I
43a CYRILLIC SMALL LETTER KA
43b CYRILLIC SMALL LETTER EL
43c CYRILLIC SMALL LETTER EM
43d CYRILLIC SMALL LETTER EN
43e CYRILLIC SMALL LETTER O
43f CYRILLIC SMALL LETTER PE
440 CYRILLIC SMALL LETTER ER
441 CYRILLIC SMALL LETTER ES
442 CYRILLIC SMALL LETTER TE
443 CYRILLIC SMALL LETTER U
444 CYRILLIC SMALL LETTER EF
445 CYRILLIC SMALL LETTER HA
446 CYRILLIC SMALL LETTER TSE
447 CYRILLIC SMALL LETTER CHE
448 CYRILLIC SMALL LETTER SHA
449 CYRILLIC SMALL LETTER SHCHA
44a CYRILLIC SMALL LETTER HARD SIGN
44b CYRILLIC SMALL LETTER YERU
44c CYRILLIC SMALL LETTER SOFT SIGN
44d CYRILLIC SMALL LETTER E
44e CYRILLIC SMALL LETTER YU
44f CYRILLIC SMALL LETTER YA
450 CYRILLIC SMALL LETTER IE WITH GRAVE
451 CYRILLIC SMALL LETTER IO
452 CYRILLIC SMALL LETTER DJE
453 CYRILLIC SMALL LETTER GJE
454 CYRILLIC SMALL LETTER UKRAINIAN IE
455 CYRILLIC SMALL LETTER DZE
456 CYRILLIC SMALL LETTER BYELORUSSIAN-UKRAINIAN I
457 CYRILLIC SMALL LETTER YI
458 CYRILLIC SMALL LETTER JE
459 CYRILLIC SMALL LETTER LJE
45a CYRILLIC SMALL LETTER NJE
45b CYRILLIC SMALL LETTER TSHE
45c CYRILLIC SMALL LETTER KJE
45d CYRILLIC SMALL LETTER I WITH GRAVE
45e CYRILLIC SMALL LETTER SHORT U
45f CYRILLIC SMALL LETTER DZHE
2000 EN QUAD
2001 EM QUAD
2002 EN SPACE
2003 EM SPACE
2004 THREE-PER-EM SPACE
2005 FOUR-PER-EM SPACE
2006 SIX-PER-EM SPACE
2007 FIGURE SPACE
2008 PUNCTUATION SPACE
2009 THIN SPACE
200a HAIR SPACE
200b ZERO WIDTH SPACE
200c ZERO WIDTH NON-JOINER
200d ZERO WIDTH JOINER
200e LEFT-TO-RIGHT MARK
200f RIGHT-TO-LEFT MARK
2010 HYPHEN
2011 NON-BREAKING HYPHEN
2012 FIGURE DASH
2013 EN DASH
2014 EM DASH
2015 HORIZONTAL BAR
2016 DOUBLE VERTICAL LINE
2017 DOUBLE LOW LINE
2018 LEFT SINGLE QUOTATION MARK
2019 RIGHT SINGLE QUOTATION MARK
201a SINGLE LOW-9 QUOTATION MARK
201b SINGLE HIGH-REVERSED-9 QUOTATION MARK
201c LEFT DOUBLE QUOTATION MARK
201d RIGHT DOUBLE QUOTATION MARK
201e DOUBLE LOW-9 QUOTATION MARK
201f DOUBLE HIGH-REVERSED-9 QUOTATION MARK
2020 DAGGER
2021 DOUBLE DAGGER
2022 BULLET
2023 TRIANGULAR BULLET
2024 ONE DOT LEADER
2025 TWO DOT LEADER
2026 HORIZONTAL ELLIPSIS
2027 HYPHENATION POINT
2028 LINE SEPARATOR
2029 PARAGRAPH SEPARATOR
202a LEFT-TO-RIGHT EMBEDDING
202b RIGHT-TO-LEFT EMBEDDING
202c POP DIRECTIONAL FORMATTING
202d LEFT-TO-RIGHT OVERRIDE
202e RIGHT-TO-LEFT OVERRIDE
202f NARROW NO-BREAK SPACE
2030 PER MILLE SIGN
2031 PER TEN THOUSAND SIGN
2032 PRIME
2033 DOUBLE PRIME
2034 TRIPLE PRIME
2035 REVERSED PRIME
2036 REVERSED DOUBLE PRIME
2037 REVERSED TRIPLE PRIME
2038 CARET
2039 SINGLE LEFT-POINTING ANGLE QUOTATION MARK
203a SINGLE RIGHT-POINTING ANGLE QUOTATION MARK
203b REFERENCE MARK
203c DOUBLE EXCLAMATION MARK
203d INTERROBANG
203e OVERLINE
203f UNDERTIE
2040 CHARACTER TIE
2041 CARET INSERTION POINT
2042 ASTERISM
2043 HYPHEN BULLET
2044 FRACTION SLASH
2045 LEFT SQUARE BRACKET WITH QUILL
2046 RIGHT SQUARE BRACKET WITH QUILL
2047 DOUBLE QUESTION MARK
2048 QUESTION EXCLAMATION MARK
2049 EXCLAMATION QUESTION MARK
204a TIRONIAN SIGN ET
204b REVERSED PILCROW SIGN
204c BLACK LEFTWARDS BULLET
204d BLACK RIGHTWARDS BULLET
204e LOW ASTERISK
204f REVERSED SEMICOLON
2050 CLOSE UP
2051 TWO ASTERISKS ALIGNED VERTICALLY
2052 COMMERCIAL MINUS SIGN
2053 SWUNG DASH
2054 INVERTED UNDERTIE
2055 FLOWER PUNCTUATION MARK
2056 THREE DOT PUNCTUATION
2057 QUADRUPLE PRIME
2058 FOUR DOT PUNCTUATION
2059 FIVE DOT PUNCTUATION
205a TWO DOT PUNCTUATION
205b FOUR DOT MARK
205c DOTTED CROSS
205d TRICOLON
205e VERTICAL FOUR DOTS
205f MEDIUM MATHEMATICAL SPACE
2060 WORD JOINER
2061 FUNCTION APPLICATION
2062 INVISIBLE TIMES
2063 INVISIBLE SEPARATOR
2064 INVISIBLE PLUS
2066 LEFT-TO-RIGHT ISOLATE
2067 RIGHT-TO-LEFT ISOLATE
2068 FIRST STRONG ISOLATE
2069 POP DIRECTIONAL ISOLATE
206a INHIBIT SYMMETRIC SWAPPING
206b ACTIVATE SYMMETRIC SWAPPING
206c INHIBIT ARABIC FORM SHAPING
206d ACTIVATE ARABIC FORM SHAPING
206e NATIONAL DIGIT SHAPES
206f NOMINAL DIGIT SHAPES
20a0 EURO-CURRENCY SIGN
20a1 COLON SIGN
20a2 CRUZEIRO SIGN
20a3 FRENCH FRANC SIGN
20a4 LIRA SIGN
20a5 MILL SIGN
20a6 NAIRA SIGN
20a7 PESETA SIGN
20a8 RUPEE SIGN
20a9 WON SIGN
20aa NEW SHEQEL SIGN
20ab DONG SIGN
20ac EURO SIGN
20ad KIP SIGN
20ae TUGRIK SIGN
20af DRACHMA SIGN
20b0 GERMAN PENNY SIGN
20b1 PESO SIGN
20b2 GUARANI SIGN
20b3 AUSTRAL SIGN
20b4 HRYVNIA SIGN
20b5 CEDI SIGN
20b6 LIVRE TOURNOIS SIGN
20b7 SPESMILO SIGN
20b8 TENGE SIGN
20b9 INDIAN RUPEE SIGN
20ba TURKISH LIRA SIGN
20bb NORDIC MARK SIGN
20bc MANAT SIGN
20bd RUBLE SIGN
20be LARI SIGN
20bf BITCOIN SIGN
2190 LEFTWARDS ARROW
2191 UPWARDS ARROW
2192 RIGHTWARDS ARROW
2193 DOWNWARDS ARROW
2194 LEFT RIGHT ARROW
2195 UP DOWN ARROW
2196 NORTH WEST ARROW
2197 NORTH EAST ARROW
2198 SOUTH EAST ARROW
2199 SOUTH WEST ARROW
219a LEFTWARDS ARROW WITH STROKE
219b RIGHTWARDS ARROW WITH STROKE
219c LEFTWARDS WAVE ARROW
219d RIGHTWARDS WAVE ARROW
219e LEFTWARDS TWO HEADED ARROW
219f UPWARDS TWO HEADED ARROW
21a0 RIGHTWARDS TWO HEADED ARROW
21a1 DOWNWARDS TWO HEADED ARROW
21a2 LEFTWARDS ARROW WITH TAIL
21a3 RIGHTWARDS ARROW WITH TAIL
21a4 LEFTWARDS ARROW FROM BAR
21a5 UPWARDS ARROW FROM BAR
21a6 RIGHTWARDS ARROW FROM BAR
21a7 DOWNWARDS ARROW FROM BAR
21a8 UP DOWN ARROW WITH BASE
21a9 LEFTWARDS ARROW WITH HOOK
21aa RIGHTWARDS ARROW WITH HOOK
21ab LEFTWARDS ARROW WITH LOOP
21ac RIGHTWARDS ARROW WITH LOOP
21ad LEFT RIGHT WAVE ARROW
21ae LEFT RIGHT ARROW WITH STROKE
21af DOWNWARDS ZIGZAG ARROW
21b0 UPWARDS ARROW WITH TIP LEFTWARDS
21b1 UPWARDS ARROW WITH TIP RIGHTWARDS
21b2 DOWNWARDS ARROW WITH TIP LEFTWARDS
21b3 DOWNWARDS ARROW WITH TIP RIGHTWARDS
21b4 RIGHTWARDS ARROW WITH CORNER DOWNWARDS
21b5 DOWNWARDS ARROW WITH CORNER LEFTWARDS
21b6 ANTICLOCKWISE TOP SEMICIRCLE ARROW
21b7 CLOCKWISE TOP SEMICIRCLE ARROW
21b8 NORTH WEST ARROW TO LONG BAR
21b9 LEFTWARDS ARROW TO BAR OVER RIGHTWARDS ARROW TO BAR
21ba ANTICLOCKWISE OPEN CIRCLE ARROW
21bb CLOCKWISE OPEN CIRCLE ARROW
21bc LEFTWARDS HARPOON WITH BARB UPWARDS
21bd LEFTWARDS HARPOON WITH BARB DOWNWARDS
21be UPWARDS HARPOON WITH BARB RIGHTWARDS
21bf UPWARDS HARPOON WITH BARB LEFTWARDS
21c0 RIGHTWARDS HARPOON WITH BARB UPWARDS
21c1 RIGHTWARDS HARPOON WITH BARB DOWNWARDS
21c2 DOWNWARDS HARPOON WITH BARB RIGHTWARDS
21c3 DOWNWARDS HARPOON WITH BARB LEFTWARDS
21c4 RIGHTWARDS ARROW OVER LEFTWARDS ARROW
21c5 UPWARDS ARROW LEFTWARDS OF DOWNWARDS ARROW
21c6 LEFTWARDS ARROW OVER RIGHTWARDS ARROW
21c7 LEFTWARDS PAIRED ARROWS
21c8 UPWARDS PAIRED ARROWS
21c9 RIGHTWARDS PAIRED ARROWS
21ca DOWNWARDS PAIRED ARROWS
21cb LEFTWARDS HARPOON OVER RIGHTWARDS HARPOON
21cc RIGHTWARDS HARPOON OVER LEFTWARDS HARPOON
21cd LEFTWARDS DOUBLE ARROW WITH STROKE
21ce LEFT RIGHT DOUBLE ARROW WITH STROKE
21cf RIGHTWARDS DOUBLE ARROW WITH STROKE
21d0 LEFTWARDS DOUBLE ARROW
21d1 UPWARDS DOUBLE ARROW
21d2 RIGHTWARDS DOUBLE ARROW
21d3 DOWNWARDS DOUBLE ARROW
21d4 LEFT RIGHT DOUBLE ARROW
21d5 UP DOWN DOUBLE ARROW
21d6 NORTH WEST DOUBLE ARROW
21d7 NORTH EAST DOUBLE ARROW
21d8 SOUTH EAST DOUBLE ARROW
21d9 SOUTH WEST DOUBLE ARROW
21da LEFTWARDS TRIPLE ARROW
21db RIGHTWARDS TRIPLE ARROW
21dc LEFTWARDS SQUIGGLE ARROW
21dd RIGHTWARDS SQUIGGLE ARROW
21de UPWARDS ARROW WITH DOUBLE STROKE
21df DOWNWARDS ARROW WITH DOUBLE STROKE
21e0 LEFTWARDS DASHED ARROW
21e1 UPWARDS DASHED ARROW
21e2 RIGHTWARDS DASHED ARROW
21e3 DOWNWARDS DASHED ARROW
21e4 LEFTWARDS ARROW TO BAR
21e5 RIGHTWARDS ARROW TO BAR
21e6 LEFTWARDS WHITE ARROW
21e7 UPWARDS WHITE ARROW
21e8 RIGHTWARDS WHITE ARROW
21e9 DOWNWARDS WHITE ARROW
21ea UPWARDS WHITE ARROW FROM BAR
21eb UPWARDS WHITE ARROW ON PEDESTAL
21ec UPWARDS WHITE ARROW ON PEDESTAL WITH HORIZONTAL BAR
21ed UPWARDS WHITE ARROW ON PEDESTAL WITH VERTICAL BAR
21ee UPWARDS WHITE DOUBLE ARROW
21ef UPWARDS WHITE DOUBLE ARROW ON PEDESTAL
21f0 RIGHTWARDS WHITE ARROW FROM WALL
21f1 NORTH WEST ARROW TO CORNER
21f2 SOUTH EAST ARROW TO CORNER
21f3 UP DOWN WHITE ARROW
21f4 RIGHT ARROW WITH SMALL CIRCLE
21f5 DOWNWARDS ARROW LEFTWARDS OF UPWARDS ARROW
21f6 THREE RIGHTWARDS ARROWS
21f7 LEFTWARDS ARROW WITH VERTICAL STROKE
21f8 RIGHTWARDS ARROW WITH VERTICAL STROKE
21f9 LEFT RIGHT ARROW WITH VERTICAL STROKE
21fa LEFTWARDS ARROW WITH DOUBLE VERTICAL STROKE
21fb RIGHTWARDS ARROW WITH DOUBLE VERTICAL STROKE
21fc LEFT RIGHT ARROW WITH DOUBLE VERTICAL STROKE
21fd LEFTWARDS OPEN-HEADED ARROW
21fe RIGHTWARDS OPEN-HEADED ARROW
21ff LEFT RIGHT OPEN-HEADED ARROW
2200 FOR ALL
2201 COMPLEMENT
2202 PARTIAL DIFFERENTIAL
2203 THERE EXISTS
2204 THERE DOES NOT EXIST
2205 EMPTY SET
2206 INCREMENT
2207 NABLA
2208 ELEMENT OF
2209 NOT AN ELEMENT OF
220a SMALL ELEMENT OF
220b CONTAINS AS MEMBER
220c DOES NOT CONTAIN AS MEMBER
220d SMALL CONTAINS AS MEMBER
220e END OF PROOF
220f N-ARY PRODUCT
2210 N-ARY COPRODUCT
2211 N-ARY SUMMATION
2212 MINUS SIGN
2213 MINUS-OR-PLUS SIGN
2214 DOT PLUS
2215 DIVISION SLASH
2216 SET MINUS
2217 ASTERISK OPERATOR
2218 RING OPERATOR
2219 BULLET OPERATOR
221a SQUARE ROOT
221b CUBE ROOT
221c FOURTH ROOT
221d PROPORTIONAL TO
221e INFINITY
221f RIGHT ANGLE
2220 ANGLE
2221 MEASURED ANGLE
2222 SPHERICAL ANGLE
2223 DIVIDES
2224 DOES NOT DIVIDE
2225 PARALLEL TO
2226 NOT PARALLEL TO
2227 LOGICAL AND
2228 LOGICAL OR
2229 INTERSECTION
222a UNION
222b INTEGRAL
222c DOUBLE INTEGRAL
222d TRIPLE INTEGRAL
222e CONTOUR INTEGRAL
222f SURFACE INTEGRAL
2230 VOLUME INTEGRAL
2231 CLOCKWISE INTEGRAL
2232 CLOCKWISE CONTOUR INTEGRAL
2233 ANTICLOCKWISE CONTOUR INTEGRAL
2234 THEREFORE
2235 BECAUSE
2236 RATIO
2237 PROPORTION
2238 DOT MINUS
2239 EXCESS
223a GEOMETRIC PROPORTION
223b HOMOTHETIC
223c TILDE OPERATOR
223d REVERSED TILDE
223e INVERTED LAZY S
223f SINE WAVE
2240 WREATH PRODUCT
2241 NOT TILDE
2242 MINUS TILDE
2243 ASYMPTOTICALLY EQUAL TO
2244 NOT ASYMPTOTICALLY EQUAL TO
2245 APPROXIMATELY EQUAL TO
2246 APPROXIMATELY BUT NOT ACTUALLY EQUAL TO
2247 NEITHER APPROXIMATELY NOR ACTUALLY EQUAL TO
2248 ALMOST EQUAL TO
2249 NOT ALMOST EQUAL TO
224a ALMOST EQUAL OR EQUAL TO
224b TRIPLE TILDE
224c ALL EQUAL TO
224d EQUIVALENT TO
224e GEOMETRICALLY EQUIVALENT TO
224f DIFFERENCE BETWEEN
2250 APPROACHES THE LIMIT
2251 GEOMETRICALLY EQUAL TO
2252 APPROXIMATELY EQUAL TO OR THE IMAGE OF
2253 IMAGE OF OR APPROXIMATELY EQUAL TO
2254 COLON EQUALS
2255 EQUALS COLON
2256 RING IN EQUAL TO
2257 RING EQUAL TO
2258 CORRESPONDS TO
2259 ESTIMATES
225a EQUIANGULAR TO
225b STAR EQUALS
225c DELTA EQUAL TO
225d EQUAL TO BY DEFINITION
225e MEASURED BY
225f QUESTIONED EQUAL TO
2260 NOT EQUAL TO
2261 IDENTICAL TO
2262 NOT IDENTICAL TO
2263 STRICTLY EQUIVALENT TO
2264 LESS-THAN OR EQUAL TO
2265 GREATER-THAN OR EQUAL TO
2266 LESS-THAN OVER EQUAL TO
2267 GREATER-THAN OVER EQUAL TO
2268 LESS-THAN BUT NOT EQUAL TO
2269 GREATER-THAN BUT NOT EQUAL TO
226a MUCH LESS-THAN
226b MUCH GREATER-THAN
226c BETWEEN
226d NOT EQUIVALENT TO
226e NOT LESS-THAN
226f NOT GREATER-THAN
2270 NEITHER LESS-THAN NOR EQUAL TO
2271 NEITHER GREATER-THAN NOR EQUAL TO
2272 LESS-THAN OR EQUIVALENT TO
2273 GREATER-THAN OR EQUIVALENT TO
2274 NEITHER LESS-THAN NOR EQUIVALENT TO
2275 NEITHER GREATER-THAN NOR EQUIVALENT TO
2276 LESS-THAN OR GREATER-THAN
2277 GREATER-THAN OR LESS-THAN
2278 NEITHER LESS-THAN NOR GREATER-THAN
2279 NEITHER GREATER-THAN NOR LESS-THAN
227a PRECEDES
227b SUCCEEDS
227c PRECEDES OR EQUAL TO
227d SUCCEEDS OR EQUAL TO
227e PRECEDES OR EQUIVALENT TO
227f SUCCEEDS OR EQUIVALENT TO
2280 DOES NOT PRECEDE
2281 DOES NOT SUCCEED
2282 SUBSET OF
2283 SUPERSET OF
2284 NOT A SUBSET OF
2285 NOT A SUPERSET OF
2286 SUBSET OF OR EQUAL TO
2287 SUPERSET OF OR EQUAL TO
2288 NEITHER A SUBSET OF NOR EQUAL TO
2289 NEITHER A SUPERSET OF NOR EQUAL TO
228a SUBSET OF WITH NOT EQUAL TO
228b SUPERSET OF WITH NOT EQUAL TO
228c MULTISET
228d MULTISET MULTIPLICATION
228e MULTISET UNION
228f SQUARE IMAGE OF
2290 SQUARE ORIGINAL OF
2291 SQUARE IMAGE OF OR EQUAL TO
2292 SQUARE ORIGINAL OF OR EQUAL TO
2293 SQUARE CAP
2294 SQUARE CUP
2295 CIRCLED PLUS
2296 CIRCLED MINUS
2297 CIRCLED TIMES
2298 CIRCLED DIVISION SLASH
2299 CIRCLED DOT OPERATOR
229a CIRCLED RING OPERATOR
229b CIRCLED ASTERISK OPERATOR
229c CIRCLED EQUALS
229d CIRCLED DASH
229e SQUARED PLUS
229f SQUARED MINUS
22a0 SQUARED TIMES
22a1 SQUARED DOT OPERATOR
22a2 RIGHT TACK
22a3 LEFT TACK
22a4 DOWN TACK
22a5 UP TACK
22a6 ASSERTION
22a7 MODELS
22a8 TRUE
22a9 FORCES
22aa TRIPLE VERTICAL BAR RIGHT TURNSTILE
22ab DOUBLE VERTICAL BAR DOUBLE RIGHT TURNSTILE
22ac DOES NOT PROVE
22ad NOT TRUE
22ae DOES NOT FORCE
22af NEGATED DOUBLE VERTICAL BAR DOUBLE RIGHT TURNSTILE
22b0 PRECEDES UNDER RELATION
22b1 SUCCEEDS UNDER RELATION
22b2 NORMAL SUBGROUP OF
22b3 CONTAINS AS NORMAL SUBGROUP
22b4 NORMAL SUBGROUP OF OR EQUAL TO
22b5 CONTAINS AS NORMAL SUBGROUP OR EQUAL TO
22b6 ORIGINAL OF
22b7 IMAGE OF
22b8 MULTIMAP
22b9 HERMITIAN CONJUGATE MATRIX
22ba INTERCALATE
22bb XOR
22bc NAND
22bd NOR
22be RIGHT ANGLE WITH ARC
22bf RIGHT TRIANGLE
22c0 N-ARY LOGICAL AND
22c1 N-ARY LOGICAL OR
22c2 N-ARY INTERSECTION
22c3 N-ARY UNION
22c4 DIAMOND OPERATOR
22c5 DOT OPERATOR
22c6 STAR OPERATOR
22c7 DIVISION TIMES
22c8 BOWTIE
22c9 LEFT NORMAL FACTOR SEMIDIRECT PRODUCT
22ca RIGHT NORMAL FACTOR SEMIDIRECT PRODUCT
22cb LEFT SEMIDIRECT PRODUCT
22cc RIGHT SEMIDIRECT PRODUCT
22cd REVERSED TILDE EQUALS
22ce CURLY LOGICAL OR
22cf CURLY LOGICAL AND
22d0 DOUBLE SUBSET
22d1 DOUBLE SUPERSET
22d2 DOUBLE INTERSECTION
22d3 DOUBLE UNION
22d4 PITCHFORK
22d5 EQUAL AND PARALLEL TO
22d6 LESS-THAN WITH DOT
22d7 GREATER-THAN WITH DOT
22d8 VERY MUCH LESS-THAN
22d9 VERY MUCH GREATER-THAN
22da LESS-THAN EQUAL TO OR GREATER-THAN
22db GREATER-THAN EQUAL TO OR LESS-THAN
22dc EQUAL TO OR LESS-THAN
22dd EQUAL TO OR GREATER-THAN
22de EQUAL TO OR PRECEDES
22df EQUAL TO OR SUCCEEDS
22e0 DOES NOT PRECEDE OR EQUAL
22e1 DOES NOT SUCCEED OR EQUAL
22e2 NOT SQUARE IMAGE OF OR EQUAL TO
22e3 NOT SQUARE ORIGINAL OF OR EQUAL TO
22e4 SQUARE IMAGE OF OR NOT EQUAL TO
22e5 SQUARE ORIGINAL OF OR NOT EQUAL TO
22e6 LESS-THAN BUT NOT EQUIVALENT TO
22e7 GREATER-THAN BUT NOT EQUIVALENT TO
22e8 PRECEDES BUT NOT EQUIVALENT TO
22e9 SUCCEEDS BUT NOT EQUIVALENT TO
22ea NOT NORMAL SUBGROUP OF
22eb DOES NOT CONTAIN AS NORMAL SUBGROUP
22ec NOT NORMAL SUBGROUP OF OR EQUAL TO
22ed DOES NOT CONTAIN AS NORMAL SUBGROUP OR EQUAL
22ee VERTICAL ELLIPSIS
22ef MIDLINE HORIZONTAL ELLIPSIS
22f0 UP RIGHT DIAGONAL ELLIPSIS
22f1 DOWN RIGHT DIAGONAL ELLIPSIS
22f2 ELEMENT OF WITH LONG HORIZONTAL STROKE
22f3 ELEMENT OF WITH VERTICAL BAR AT END OF HORIZONTAL STROKE
22f4 SMALL ELEMENT OF WITH VERTICAL BAR AT END OF HORIZONTAL STROKE
22f5 ELEMENT OF WITH DOT ABOVE
22f6 ELEMENT OF WITH OVERBAR
22f7 SMALL ELEMENT OF WITH OVERBAR
22f8 ELEMENT OF WITH UNDERBAR
22f9 ELEMENT OF WITH TWO HORIZONTAL STROKES
22fa CONTAINS WITH LONG HORIZONTAL STROKE
22fb CONTAINS WITH VERTICAL BAR AT END OF HORIZONTAL STROKE
22fc SMALL CONTAINS WITH VERTICAL BAR AT END OF HORIZONTAL STROKE
22fd CONTAINS WITH OVERBAR
22fe SMALL CONTAINS WITH OVERBAR
22ff Z NOTATION BAG MEMBERSHIP
2500 BOX DRAWINGS LIGHT HORIZONTAL
2501 BOX DRAWINGS HEAVY HORIZONTAL
2502 BOX DRAWINGS LIGHT VERTICAL
2503 BOX DRAWINGS HEAVY VERTICAL
2504 BOX DRAWINGS LIGHT TRIPLE DASH HORIZONTAL
2505 BOX DRAWINGS HEAVY TRIPLE DASH HORIZONTAL
2506 BOX DRAWINGS LIGHT TRIPLE DASH VERTICAL
2507 BOX DRAWINGS HEAVY TRIPLE DASH VERTICAL
2508 BOX DRAWINGS LIGHT QUADRUPLE DASH HORIZONTAL
2509 BOX DRAWINGS HEAVY QUADRUPLE DASH HORIZONTAL
250a BOX DRAWINGS LIGHT QUADRUPLE DASH VERTICAL
250b BOX DRAWINGS HEAVY QUADRUPLE DASH VERTICAL
250c BOX DRAWINGS LIGHT DOWN AND RIGHT
250d BOX DRAWINGS DOWN LIGHT AND RIGHT HEAVY
250e BOX DRAWINGS DOWN HEAVY AND RIGHT LIGHT
250f BOX DRAWINGS HEAVY DOWN AND RIGHT
2510 BOX DRAWINGS LIGHT DOWN AND LEFT
2511 BOX DRAWINGS DOWN LIGHT AND LEFT HEAVY
2512 BOX DRAWINGS DOWN HEAVY AND LEFT LIGHT
2513 BOX DRAWINGS HEAVY DOWN AND LEFT
2514 BOX DRAWINGS LIGHT UP AND RIGHT
2515 BOX DRAWINGS UP LIGHT AND RIGHT HEAVY
2516 BOX DRAWINGS UP HEAVY AND RIGHT LIGHT
2517 BOX DRAWINGS HEAVY UP AND RIGHT
2518 BOX DRAWINGS LIGHT UP AND LEFT
2519 BOX DRAWINGS UP LIGHT AND LEFT HEAVY
251a BOX DRAWINGS UP HEAVY AND LEFT LIGHT
251b BOX DRAWINGS HEAVY UP AND LEFT
251c BOX DRAWINGS LIGHT VERTICAL AND RIGHT
251d BOX DRAWINGS VERTICAL LIGHT AND RIGHT HEAVY
251e BOX DRAWINGS UP HEAVY AND RIGHT DOWN LIGHT
251f BOX DRAWINGS DOWN HEAVY AND RIGHT UP LIGHT
2520 BOX DRAWINGS VERTICAL HEAVY AND RIGHT LIGHT
2521 BOX DRAWINGS DOWN LIGHT AND RIGHT UP HEAVY
2522 BOX DRAWINGS UP LIGHT AND RIGHT DOWN HEAVY
2523 BOX DRAWINGS HEAVY VERTICAL AND RIGHT
2524 BOX DRAWINGS LIGHT VERTICAL AND LEFT
2525 BOX DRAWINGS VERTICAL LIGHT AND LEFT HEAVY
2526 BOX DRAWINGS UP HEAVY AND LEFT DOWN LIGHT
2527 BOX DRAWINGS DOWN HEAVY AND LEFT UP LIGHT
2528 BOX DRAWINGS VERTICAL HEAVY AND LEFT LIGHT
2529 BOX DRAWINGS DOWN LIGHT AND LEFT UP HEAVY
252a BOX DRAWINGS UP LIGHT AND LEFT DOWN HEAVY
252b BOX DRAWINGS HEAVY VERTICAL AND LEFT
252c BOX DRAWINGS LIGHT DOWN AND HORIZONTAL
252d BOX DRAWINGS LEFT HEAVY AND RIGHT DOWN LIGHT
252e BOX DRAWINGS RIGHT HEAVY AND LEFT DOWN LIGHT
252f BOX DRAWINGS DOWN LIGHT AND HORIZONTAL HEAVY
2530 BOX DRAWINGS DOWN HEAVY AND HORIZONTAL LIGHT
2531 BOX DRAWINGS RIGHT LIGHT AND LEFT DOWN HEAVY
2532 BOX DRAWINGS LEFT LIGHT AND RIGHT DOWN HEAVY
2533 BOX DRAWINGS HEAVY DOWN AND HORIZONTAL
2534 BOX DRAWINGS LIGHT UP AND HORIZONTAL
2535 BOX DRAWINGS LEFT HEAVY AND RIGHT UP LIGHT
2536 BOX DRAWINGS RIGHT HEAVY AND LEFT UP LIGHT
2537 BOX DRAWINGS UP LIGHT AND HORIZONTAL HEAVY
2538 BOX DRAWINGS UP HEAVY AND HORIZONTAL LIGHT
2539 BOX DRAWINGS RIGHT LIGHT AND LEFT UP HEAVY
253a BOX DRAWINGS LEFT LIGHT AND RIGHT UP HEAVY
253b BOX DRAWINGS HEAVY UP AND HORIZONTAL
253c BOX DRAWINGS LIGHT VERTICAL AND HORIZONTAL
253d BOX DRAWINGS LEFT HEAVY AND RIGHT VERTICAL LIGHT
253e BOX DRAWINGS RIGHT HEAVY AND LEFT VERTICAL LIGHT
253f BOX DRAWINGS VERTICAL LIGHT AND HORIZONTAL HEAVY
2540 BOX DRAWINGS UP HEAVY AND DOWN HORIZONTAL LIGHT
2541 BOX DRAWINGS DOWN HEAVY AND UP HORIZONTAL LIGHT
2542 BOX DRAWINGS VERTICAL HEAVY AND HORIZONTAL LIGHT
2543 BOX DRAWINGS LEFT UP HEAVY AND RIGHT DOWN LIGHT
2544 BOX DRAWINGS RIGHT UP HEAVY AND LEFT DOWN LIGHT
2545 BOX DRAWINGS LEFT DOWN HEAVY AND RIGHT UP LIGHT
2546 BOX DRAWINGS RIGHT DOWN HEAVY AND LEFT UP LIGHT
2547 BOX DRAWINGS DOWN LIGHT AND UP HORIZONTAL HEAVY
2548 BOX DRAWINGS UP LIGHT AND DOWN HORIZONTAL HEAVY
2549 BOX DRAWINGS RIGHT LIGHT AND LEFT VERTICAL HEAVY
254a BOX DRAWINGS LEFT LIGHT AND RIGHT VERTICAL HEAVY
254b BOX DRAWINGS HEAVY VERTICAL AND HORIZONTAL
254c BOX DRAWINGS LIGHT DOUBLE DASH HORIZONTAL
254d BOX DRAWINGS HEAVY DOUBLE DASH HORIZONTAL
254e BOX DRAWINGS LIGHT DOUBLE DASH VERTICAL
254f BOX DRAWINGS HEAVY DOUBLE DASH VERTICAL
2550 BOX DRAWINGS DOUBLE HORIZONTAL
2551 BOX DRAWINGS DOUBLE VERTICAL
2552 BOX DRAWINGS DOWN SINGLE AND RIGHT DOUBLE
2553 BOX DRAWINGS DOWN DOUBLE AND RIGHT SINGLE
2554 BOX DRAWINGS DOUBLE DOWN AND RIGHT
2555 BOX DRAWINGS DOWN SINGLE AND LEFT DOUBLE
2556 BOX DRAWINGS DOWN DOUBLE AND LEFT SINGLE
2557 BOX DRAWINGS DOUBLE DOWN AND LEFT
2558 BOX DRAWINGS UP SINGLE AND RIGHT DOUBLE
2559 BOX DRAWINGS UP DOUBLE AND RIGHT SINGLE
255a BOX DRAWINGS DOUBLE UP AND RIGHT
255b BOX DRAWINGS UP SINGLE AND LEFT DOUBLE
255c BOX DRAWINGS UP DOUBLE AND LEFT SINGLE
255d BOX DRAWINGS DOUBLE UP AND LEFT
255e BOX DRAWINGS VERTICAL SINGLE AND RIGHT DOUBLE
255f BOX DRAWINGS VERTICAL DOUBLE AND RIGHT SINGLE
2560 BOX DRAWINGS DOUBLE VERTICAL AND RIGHT
2561 BOX DRAWINGS VERTICAL SINGLE AND LEFT DOUBLE
2562 BOX DRAWINGS VERTICAL DOUBLE AND LEFT SINGLE
2563 BOX DRAWINGS DOUBLE VERTICAL AND LEFT
2564 BOX DRAWINGS DOWN SINGLE AND HORIZONTAL DOUBLE
2565 BOX DRAWINGS DOWN DOUBLE AND HORIZONTAL SINGLE
2566 BOX DRAWINGS DOUBLE DOWN AND HORIZONTAL
2567 BOX DRAWINGS UP SINGLE AND HORIZONTAL DOUBLE
2568 BOX DRAWINGS UP DOUBLE AND HORIZONTAL SINGLE
2569 BOX DRAWINGS DOUBLE UP AND HORIZONTAL
256a BOX DRAWINGS VERTICAL SINGLE AND HORIZONTAL DOUBLE
256b BOX DRAWINGS VERTICAL DOUBLE AND HORIZONTAL SINGLE
256c BOX DRAWINGS DOUBLE VERTICAL AND HORIZONTAL
256d BOX DRAWINGS LIGHT ARC DOWN AND RIGHT
256e BOX DRAWINGS LIGHT ARC DOWN AND LEFT
256f BOX DRAWINGS LIGHT ARC UP AND LEFT
2570 BOX DRAWINGS LIGHT ARC UP AND RIGHT
2571 BOX DRAWINGS LIGHT DIAGONAL UPPER RIGHT TO LOWER LEFT
2572 BOX DRAWINGS LIGHT DIAGONAL UPPER LEFT TO LOWER RIGHT
2573 BOX DRAWINGS LIGHT DIAGONAL CROSS
2574 BOX DRAWINGS LIGHT LEFT
2575 BOX DRAWINGS LIGHT UP
2576 BOX DRAWINGS LIGHT RIGHT
2577 BOX DRAWINGS LIGHT DOWN
2578 BOX DRAWINGS HEAVY LEFT
2579 BOX DRAWINGS HEAVY UP
257a BOX DRAWINGS HEAVY RIGHT
257b BOX DRAWINGS HEAVY DOWN
257c BOX DRAWINGS LIGHT LEFT AND HEAVY RIGHT
257d BOX DRAWINGS LIGHT UP AND HEAVY DOWN
257e BOX DRAWINGS HEAVY LEFT AND LIGHT RIGHT
257f BOX DRAWINGS HEAVY UP AND LIGHT DOWN
2580 UPPER HALF BLOCK
2581 LOWER ONE EIGHTH BLOCK
2582 LOWER ONE QUARTER BLOCK
2583 LOWER THREE EIGHTHS BLOCK
2584 LOWER HALF BLOCK
2585 LOWER FIVE EIGHTHS BLOCK
2586 LOWER THREE QUARTERS BLOCK
2587 LOWER SEVEN EIGHTHS BLOCK
2588 FULL BLOCK
2589 LEFT SEVEN EIGHTHS BLOCK
258a LEFT THREE QUARTERS BLOCK
258b LEFT FIVE EIGHTHS BLOCK
258c LEFT HALF BLOCK
258d LEFT THREE EIGHTHS BLOCK
258e LEFT ONE QUARTER BLOCK
258f LEFT ONE EIGHTH BLOCK
2590 RIGHT HALF BLOCK
2591 LIGHT SHADE
2592 MEDIUM SHADE
2593 DARK SHADE
2594 UPPER ONE EIGHTH BLOCK
2595 RIGHT ONE EIGHTH BLOCK
2596 QUADRANT LOWER LEFT
2597 QUADRANT LOWER RIGHT
2598 QUADRANT UPPER LEFT
2599 QUADRANT UPPER LEFT AND LOWER LEFT AND LOWER RIGHT
259a QUADRANT UPPER LEFT AND LOWER RIGHT
259b QUADRANT UPPER LEFT AND UPPER RIGHT AND LOWER LEFT
259c QUADRANT UPPER LEFT AND UPPER RIGHT AND LOWER RIGHT
259d QUADRANT UPPER RIGHT
259e QUADRANT UPPER RIGHT AND LOWER LEFT
259f QUADRANT UPPER RIGHT AND LOWER LEFT AND LOWER RIGHT
25a0 BLACK SQUARE
25a1 WHITE SQUARE
25a2 WHITE SQUARE WITH ROUNDED CORNERS
25a3 WHITE SQUARE CONTAINING BLACK SMALL SQUARE
25a4 SQUARE WITH HORIZONTAL FILL
25a5 SQUARE WITH VERTICAL FILL
25a6 SQUARE WITH ORTHOGONAL CROSSHATCH FILL
25a7 SQUARE WITH UPPER LEFT TO LOWER RIGHT FILL
25a8 SQUARE WITH UPPER RIGHT TO LOWER LEFT FILL
25a9 SQUARE WITH DIAGONAL CROSSHATCH FILL
25aa BLACK SMALL SQUARE
25ab WHITE SMALL SQUARE
25ac BLACK RECTANGLE
25ad WHITE RECTANGLE
25ae BLACK VERTICAL RECTANGLE
25af WHITE VERTICAL RECTANGLE
25b0 BLACK PARALLELOGRAM
25b1 WHITE PARALLELOGRAM
25b2 BLACK UP-POINTING TRIANGLE
25b3 WHITE UP-POINTING TRIANGLE
25b4 BLACK UP-POINTING SMALL TRIANGLE
25b5 WHITE UP-POINTING SMALL TRIANGLE
25b6 BLACK RIGHT-POINTING TRIANGLE
25b7 WHITE RIGHT-POINTING TRIANGLE
25b8 BLACK RIGHT-POINTING SMALL TRIANGLE
25b9 WHITE RIGHT-POINTING SMALL TRIANGLE
25ba BLACK RIGHT-POINTING POINTER
25bb WHITE RIGHT-POINTING POINTER
25bc BLACK DOWN-POINTING TRIANGLE
25bd WHITE DOWN-POINTING TRIANGLE
25be BLACK DOWN-POINTING SMALL TRIANGLE
25bf WHITE DOWN-POINTING SMALL TRIANGLE
25c0 BLACK LEFT-POINTING TRIANGLE
25c1 WHITE LEFT-POINTING TRIANGLE
25c2 BLACK LEFT-POINTING SMALL TRIANGLE
25c3 WHITE LEFT-POINTING SMALL TRIANGLE
25c4 BLACK LEFT-POINTING POINTER
25c5 WHITE LEFT-POINTING POINTER
25c6 BLACK DIAMOND
25c7 WHITE DIAMOND
25c8 WHITE DIAMOND CONTAINING BLACK SMALL DIAMOND
25c9 FISHEYE
25ca LOZENGE
25cb WHITE CIRCLE
25cc DOTTED CIRCLE
25cd CIRCLE WITH VERTICAL FILL
25ce BULLSEYE
25cf BLACK CIRCLE
25d0 CIRCLE WITH LEFT HALF BLACK
25d1 CIRCLE WITH RIGHT HALF BLACK
25d2 CIRCLE WITH LOWER HALF BLACK
25d3 CIRCLE WITH UPPER HALF BLACK
25d4 CIRCLE WITH UPPER RIGHT QUADRANT BLACK
25d5 CIRCLE WITH ALL BUT UPPER LEFT QUADRANT BLACK
25d6 LEFT HALF BLACK CIRCLE
25d7 RIGHT HALF BLACK CIRCLE
25d8 INVERSE BULLET
25d9 INVERSE WHITE CIRCLE
25da UPPER HALF INVERSE WHITE CIRCLE
25db LOWER HALF INVERSE WHITE CIRCLE
25dc UPPER LEFT QUADRANT CIRCULAR ARC
25dd UPPER RIGHT QUADRANT CIRCULAR ARC
25de LOWER RIGHT QUADRANT CIRCULAR ARC
25df LOWER LEFT QUADRANT CIRCULAR ARC
25e0 UPPER HALF CIRCLE
25e1 LOWER HALF CIRCLE
25e2 BLACK LOWER RIGHT TRIANGLE
25e3 BLACK LOWER LEFT TRIANGLE
25e4 BLACK UPPER LEFT TRIANGLE
25e5 BLACK UPPER RIGHT TRIANGLE
25e6 WHITE BULLET
25e7 SQUARE WITH LEFT HALF BLACK
25e8 SQUARE WITH RIGHT HALF BLACK
25e9 SQUARE WITH UPPER LEFT DIAGONAL HALF BLACK
25ea SQUARE WITH LOWER RIGHT DIAGONAL HALF BLACK
25eb WHITE SQUARE WITH VERTICAL BISECTING LINE
25ec WHITE UP-POINTING TRIANGLE WITH DOT
25ed UP-POINTING TRIANGLE WITH LEFT HALF BLACK
25ee UP-POINTING TRIANGLE WITH RIGHT HALF BLACK
25ef LARGE CIRCLE
25f0 WHITE SQUARE WITH UPPER LEFT QUADRANT
25f1 WHITE SQUARE WITH LOWER LEFT QUADRANT
25f2 WHITE SQUARE WITH LOWER RIGHT QUADRANT
25f3 WHITE SQUARE WITH UPPER RIGHT QUADRANT
25f4 WHITE CIRCLE WITH UPPER LEFT QUADRANT
25f5 WHITE CIRCLE WITH LOWER LEFT QUADRANT
25f6 WHITE CIRCLE WITH LOWER RIGHT QUADRANT
25f7 WHITE CIRCLE WITH UPPER RIGHT QUADRANT
25f8 UPPER LEFT TRIANGLE
25f9 UPPER RIGHT TRIANGLE
25fa LOWER LEFT TRIANGLE
25fb WHITE MEDIUM SQUARE
25fc BLACK MEDIUM SQUARE
25fd WHITE MEDIUM SMALL SQUARE
25fe BLACK MEDIUM SMALL SQUARE
25ff LOWER RIGHT TRIANGLE
0 NULL
1 START OF HEADING
2 START OF TEXT
3 END OF TEXT
4 END OF TRANSMISSION
5 ENQUIRY
6 ACKNOWLEDGE
7 ALERT
8 BACKSPACE
9 CHARACTER TABULATION
9 HORIZONTAL TABULATION
a LINE FEED
a NEW LINE
a END OF LINE
b LINE TABULATION
b VERTICAL TABULATION
c FORM FEED
d CARRIAGE RETURN
e SHIFT OUT
f SHIFT IN
1b ESCAPE
7f DELETE
85 NEXT LINE
0 NUL
7 BEL
8 BS
9 HT
9 TAB
a LF
a NL
a EOL
b VT
c FF
d CR
1b ESC
20 SP
7f DEL
85 NEL
a0 NBSP
ad SHY
200b ZWSP
200c ZWNJ
200d ZWJ
200e LRM
200f RLM
feff BOM
feff ZERO WIDTH NO-BREAK SPACE
feff BYTE ORDER MARK
fffd REPLACEMENT CHARACTER
2603 SNOWMAN
2605 BLACK STAR
2606 WHITE STAR
2713 CHECK MARK
2714 HEAVY CHECK MARK
1f600 GRINNING FACE
1f4a9 PILE OF POO
3000 IDEOGRAPHIC SPACE
1680 OGHAM SPACE MARK
661 ARABIC-INDIC DIGIT ONE
665 ARABIC-INDIC DIGIT FIVE"

/-- Cuts characters into lines; `line` holds the open line in reverse. -/
def tableLines (line : List Char) : List Char → List (List Char)
  | [] => [line.reverse]
  | c :: rest => if c == '\n' then line.reverse :: tableLines [] rest else tableLines (c :: line) rest

/-- The names and their code points. -/
def namedCharacters : List (String × Nat) := (tableLines [] nameTable.toList).map fun line =>
  (String.ofList ((line.dropWhile (· != ' ')).drop 1), hexNumber (line.takeWhile (· != ' ')))

/-- The code point of the character with a name. -/
def characterNamed? (name : String) : Option Nat :=
  let key := String.ofList (name.toList.map Char.toUpper)
  (namedCharacters.find? (·.1 == key)).map Prod.snd

end ConfigAudit.Text
