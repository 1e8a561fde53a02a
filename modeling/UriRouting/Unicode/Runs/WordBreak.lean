/-!
# The boundaries of words as runs

The classes by which Unicode 16 cuts a text into words, written as runs in ascending order from zero: the
length of a run in decimal, followed by the code of its class.  A code point that is in no class has the
code `Xx`.  Beside the table stand the names of the classes, in lower case and without separators: a word
with a capital letter is a code, and the words after it are names of its class.
-/

namespace UriRouting.Unicode

/-- The runs of the classes by which a text is cut into words. -/
def wordBreakRuns : List String :=
  ["10Xx 1Lf 2Nl 1Cr 18Xx 1Wsegspace 1Xx 1Dq 4Xx 1Sq 4Xx 1Mn 1Xx 1Mb 1Xx 10Nu 1Ml 1Mn 5Xx 26Le",
   "4Xx 1Ex 1Xx 26Le 10Xx 1Nl 36Xx 1Le 2Xx 1Fo 7Xx 1Le 1Xx 1Ml 2Xx 1Le 5Xx 23Le 1Xx 31Le 1Xx",
   "480Le 6Xx 34Le 112Extend 5Le 1Xx 2Le 2Xx 4Le 1Mn 1Le 6Xx 1Le 1Ml 3Le 1Xx 1Le 1Xx 20Le 1Xx",
   "83Le 1Xx 139Le 1Xx 7Extend 166Le 1Xx 38Le 2Xx 4Le 1Xx 1Le 1Ml 41Le 1Mn 1Le 6Xx 45Extend 1Xx",
   "1Extend 1Xx 2Extend 1Xx 2Extend 1Xx 1Extend 8Xx 27Hl 4Xx 4Hl 1Le 1Ml 11Xx 6Nu 6Xx 2Mn 2Xx",
   "11Extend 1Xx 1Fo 3Xx 43Le 21Extend 10Nu 1Xx 1Nu 1Mn 1Xx 2Le 1Extend 99Le 1Xx 1Le 7Extend 1Nu",
   "1Xx 6Extend 2Le 2Extend 1Xx 4Extend 2Le 10Nu 3Le 2Xx 1Le 15Xx 2Le 1Extend 30Le 27Extend 2Xx",
   "89Le 11Extend 1Le 14Xx 10Nu 33Le 9Extend 2Le 2Xx 1Mn 1Xx 1Le 2Xx 1Extend 2Xx 22Le 4Extend",
   "1Le 9Extend 1Le 3Extend 1Le 5Extend 18Xx 25Le 3Extend 4Xx 11Le 5Xx 24Le 1Xx 6Le 1Xx 2Nu 5Xx",
   "9Extend 42Le 24Extend 1Nu 33Extend 54Le 3Extend 1Le 18Extend 1Le 7Extend 10Le 2Extend 2Xx",
   "10Nu 1Xx 16Le 3Extend 1Xx 8Le 2Xx 2Le 2Xx 22Le 1Xx 7Le 1Xx 1Le 3Xx 4Le 2Xx 1Extend 1Le",
   "7Extend 2Xx 2Extend 2Xx 3Extend 1Le 8Xx 1Extend 4Xx 2Le 1Xx 3Le 2Extend 2Xx 10Nu 2Le 10Xx",
   "1Le 1Xx 1Extend 2Xx 3Extend 1Xx 6Le 4Xx 2Le 2Xx 22Le 1Xx 7Le 1Xx 2Le 1Xx 2Le 1Xx 2Le 2Xx",
   "1Extend 1Xx 5Extend 4Xx 2Extend 2Xx 3Extend 3Xx 1Extend 7Xx 4Le 1Xx 1Le 7Xx 10Nu 2Extend 3Le",
   "1Extend 11Xx 3Extend 1Xx 9Le 1Xx 3Le 1Xx 22Le 1Xx 7Le 1Xx 2Le 1Xx 5Le 2Xx 1Extend 1Le",
   "8Extend 1Xx 3Extend 1Xx 3Extend 2Xx 1Le 15Xx 2Le 2Extend 2Xx 10Nu 9Xx 1Le 6Extend 1Xx",
   "3Extend 1Xx 8Le 2Xx 2Le 2Xx 22Le 1Xx 7Le 1Xx 2Le 1Xx 5Le 2Xx 1Extend 1Le 7Extend 2Xx 2Extend",
   "2Xx 3Extend 7Xx 3Extend 4Xx 2Le 1Xx 3Le 2Extend 2Xx 10Nu 1Xx 1Le 16Xx 1Extend 1Le 1Xx 6Le",
   "3Xx 3Le 1Xx 4Le 3Xx 2Le 1Xx 1Le 1Xx 2Le 3Xx 2Le 3Xx 3Le 3Xx 12Le 4Xx 5Extend 3Xx 3Extend 1Xx",
   "4Extend 2Xx 1Le 6Xx 1Extend 14Xx 10Nu 16Xx 5Extend 8Le 1Xx 3Le 1Xx 23Le 1Xx 16Le 2Xx 1Extend",
   "1Le 7Extend 1Xx 3Extend 1Xx 4Extend 7Xx 2Extend 1Xx 3Le 2Xx 1Le 2Xx 2Le 2Extend 2Xx 10Nu",
   "16Xx 1Le 3Extend 1Xx 8Le 1Xx 3Le 1Xx 23Le 1Xx 10Le 1Xx 5Le 2Xx 1Extend 1Le 7Extend 1Xx",
   "3Extend 1Xx 4Extend 7Xx 2Extend 6Xx 2Le 1Xx 2Le 2Extend 2Xx 10Nu 1Xx 2Le 1Extend 12Xx",
   "4Extend 9Le 1Xx 3Le 1Xx 41Le 2Extend 1Le 7Extend 1Xx 3Extend 1Xx 4Extend 1Le 5Xx 3Le 1Extend",
   "7Xx 3Le 2Extend 2Xx 10Nu 10Xx 6Le 1Xx 3Extend 1Xx 18Le 3Xx 24Le 1Xx 9Le 1Xx 1Le 2Xx 7Le 3Xx",
   "1Extend 4Xx 6Extend 1Xx 1Extend 1Xx 8Extend 6Xx 10Nu 2Xx 2Extend 61Xx 1Extend 2Xx 7Extend",
   "12Xx 8Extend 1Xx 10Nu 87Xx 1Extend 2Xx 9Extend 11Xx 7Extend 1Xx 10Nu 38Xx 1Le 23Xx 2Extend",
   "6Xx 10Nu 11Xx 1Extend 1Xx 1Extend 1Xx 1Extend 4Xx 2Extend 8Le 1Xx 36Le 4Xx 20Extend 1Xx",
   "2Extend 5Le 11Extend 1Xx 36Extend 9Xx 1Extend 100Xx 20Extend 1Xx 10Nu 12Xx 4Extend 4Xx",
   "3Extend 1Xx 3Extend 2Xx 7Extend 3Xx 4Extend 13Xx 12Extend 1Xx 1Extend 10Nu 4Extend 2Xx 38Le",
   "1Xx 1Le 5Xx 1Le 2Xx 43Le 1Xx 333Le 1Xx 4Le 2Xx 7Le 1Xx 1Le 1Xx 4Le 2Xx 41Le 1Xx 4Le 2Xx 33Le",
   "1Xx 4Le 2Xx 7Le 1Xx 1Le 1Xx 4Le 2Xx 15Le 1Xx 57Le 1Xx 4Le 2Xx 67Le 2Xx 3Extend 32Xx 16Le",
   "16Xx 86Le 2Xx 6Le 3Xx 620Le 2Xx 17Le 1Wsegspace 26Le 5Xx 75Le 3Xx 11Le 7Xx 18Le 4Extend 9Xx",
   "19Le 3Extend 11Xx 18Le 2Extend 12Xx 13Le 1Xx 3Le 1Xx 2Extend 64Xx 32Extend 9Xx 1Extend 2Xx",
   "10Nu 33Xx 3Extend 1Fo 1Extend 10Nu 6Xx 89Le 7Xx 5Le 2Extend 34Le 1Extend 1Le 5Xx 70Le 10Xx",
   "31Le 1Xx 12Extend 4Xx 12Extend 10Xx 10Nu 128Xx 11Nu 37Xx 23Le 5Extend 57Xx 10Extend 1Xx",
   "29Extend 2Xx 1Extend 10Nu 6Xx 10Nu 22Xx 31Extend 49Xx 5Extend 47Le 17Extend 8Le 3Xx 10Nu",
   "17Xx 9Extend 12Xx 3Extend 30Le 13Extend 2Le 10Nu 44Le 14Extend 12Xx 36Le 20Extend 8Xx 10Nu",
   "3Xx 3Le 10Nu 36Le 2Xx 11Le 5Xx 43Le 2Xx 3Le 16Xx 3Extend 1Xx 21Extend 4Le 1Extend 6Le",
   "1Extend 2Le 3Extend 1Le 5Xx 192Le 64Extend 278Le 2Xx 6Le 2Xx 38Le 2Xx 6Le 2Xx 8Le 1Xx 1Le",
   "1Xx 1Le 1Xx 1Le 1Xx 31Le 2Xx 53Le 1Xx 7Le 1Xx 1Le 3Xx 3Le 1Xx 7Le 3Xx 4Le 2Xx 6Le 4Xx 13Le",
   "5Xx 3Le 1Xx 7Le 3Xx 7Wsegspace 1Xx 3Wsegspace 1Xx 1Extend 1Zwj 2Fo 8Xx 2Mb 10Xx 1Mb 2Xx 1Ml",
   "2Nl 5Fo 1Ex 15Xx 2Ex 3Xx 1Mn 15Xx 1Ex 10Xx 1Wsegspace 5Fo 1Xx 10Fo 1Xx 1Le 13Xx 1Le 16Xx",
   "13Le 51Xx 33Extend 17Xx 1Le 4Xx 1Le 2Xx 10Le 1Xx 1Le 3Xx 5Le 6Xx 1Le 1Xx 1Le 1Xx 1Le 1Xx 4Le",
   "1Xx 11Le 2Xx 4Le 5Xx 5Le 4Xx 1Le 17Xx 41Le 813Xx 52Le 1814Xx 229Le 6Xx 4Le 3Extend 2Le 12Xx",
   "38Le 1Xx 1Le 5Xx 1Le 2Xx 56Le 7Xx 1Le 15Xx 1Extend 23Le 9Xx 7Le 1Xx 7Le 1Xx 7Le 1Xx 7Le 1Xx",
   "7Le 1Xx 7Le 1Xx 7Le 1Xx 7Le 1Xx 32Extend 47Xx 1Le 464Xx 1Wsegspace 4Xx 1Le 36Xx 6Extend 1Xx",
   "5Ka 5Xx 2Le 92Xx 2Extend 2Ka 3Xx 91Ka 1Xx 4Ka 5Xx 43Le 1Xx 94Le 17Xx 32Le 48Xx 16Ka 208Xx",
   "47Ka 1Xx 88Ka 27816Xx 1165Le 67Xx 46Le 2Xx 269Le 3Xx 16Le 10Nu 2Le 20Xx 47Le 4Extend 1Xx",
   "10Extend 1Xx 31Le 2Extend 80Le 2Extend 22Xx 198Le 2Xx 2Le 1Xx 1Le 1Xx 8Le 21Xx 16Le 1Extend",
   "3Le 1Extend 4Le 1Extend 23Le 5Extend 4Xx 1Extend 19Xx 52Le 12Xx 2Extend 50Le 18Extend 10Xx",
   "10Nu 6Xx 18Extend 6Le 3Xx 1Le 1Xx 2Le 1Extend 10Nu 28Le 8Extend 2Xx 23Le 13Extend 12Xx 29Le",
   "3Xx 4Extend 47Le 14Extend 14Xx 1Le 10Nu 11Xx 1Extend 10Xx 10Nu 6Xx 41Le 14Extend 9Xx 3Le",
   "1Extend 8Le 2Extend 2Xx 10Nu 33Xx 3Extend 50Xx 1Extend 1Xx 3Extend 2Xx 2Extend 5Xx 2Extend",
   "1Xx 1Extend 30Xx 11Le 5Extend 2Xx 3Le 2Extend 10Xx 6Le 2Xx 6Le 2Xx 6Le 9Xx 7Le 1Xx 7Le 1Xx",
   "58Le 6Xx 115Le 8Extend 1Xx 2Extend 2Xx 10Nu 6Xx 11172Le 12Xx 23Le 4Xx 49Le 8964Xx 7Le 12Xx",
   "5Le 5Xx 1Hl 1Extend 10Hl 1Xx 13Hl 1Xx 5Hl 1Xx 1Hl 1Xx 2Hl 1Xx 2Hl 1Xx 10Hl 98Le 33Xx 363Le",
   "18Xx 64Le 2Xx 54Le 40Xx 12Le 4Xx 16Extend 3Xx 1Ml 12Xx 16Extend 3Xx 2Ex 24Xx 3Ex 1Mn 1Xx 1Mb",
   "1Xx 1Mn 1Ml 26Xx 5Le 1Xx 135Le 2Xx 1Fo 7Xx 1Mb 4Xx 1Mn 1Xx 1Mb 1Xx 10Nu 1Ml 1Mn 5Xx 26Le 4Xx",
   "1Ex 1Xx 26Le 11Xx 56Ka 2Extend 31Le 3Xx 6Le 2Xx 6Le 2Xx 6Le 2Xx 3Le 28Xx 3Fo 4Xx 12Le 1Xx",
   "26Le 1Xx 19Le 1Xx 2Le 1Xx 15Le 2Xx 14Le 34Xx 123Le 69Xx 53Le 136Xx 1Extend 130Xx 29Le 3Xx",
   "49Le 15Xx 1Extend 31Xx 32Le 13Xx 30Le 5Xx 38Le 5Extend 5Xx 30Le 2Xx 36Le 4Xx 8Le 1Xx 5Le",
   "42Xx 158Le 2Xx 10Nu 6Xx 36Le 4Xx 36Le 4Xx 40Le 8Xx 52Le 12Xx 11Le 1Xx 15Le 1Xx 7Le 1Xx 2Le",
   "1Xx 11Le 1Xx 15Le 1Xx 7Le 1Xx 2Le 3Xx 52Le 12Xx 311Le 9Xx 22Le 10Xx 8Le 24Xx 6Le 1Xx 42Le",
   "1Xx 9Le 69Xx 6Le 2Xx 1Le 1Xx 44Le 1Xx 2Le 3Xx 1Le 2Xx 23Le 10Xx 23Le 9Xx 31Le 65Xx 19Le 1Xx",
   "2Le 10Xx 22Le 10Xx 26Le 70Xx 56Le 6Xx 2Le 64Xx 1Le 3Extend 1Xx 2Extend 5Xx 4Extend 4Le 1Xx",
   "3Le 1Xx 29Le 2Xx 3Extend 4Xx 1Extend 32Xx 29Le 3Xx 29Le 35Xx 8Le 1Xx 28Le 2Extend 25Xx 54Le",
   "10Xx 22Le 10Xx 19Le 13Xx 18Le 110Xx 73Le 55Xx 51Le 13Xx 51Le 13Xx 36Le 4Extend 8Xx 10Nu 6Xx",
   "10Nu 28Le 3Xx 5Extend 1Xx 23Le 250Xx 42Le 1Xx 2Extend 3Xx 2Le 16Xx 3Le 55Xx 4Extend 29Le",
   "10Xx 1Le 8Xx 22Le 11Extend 31Xx 18Le 4Extend 42Xx 21Le 27Xx 23Le 9Xx 3Extend 53Le 15Extend",
   "31Xx 10Nu 1Extend 2Le 2Extend 1Le 9Xx 4Extend 45Le 11Extend 2Xx 1Nu 4Xx 1Extend 10Xx 1Nu 2Xx",
   "25Le 7Xx 10Nu 6Xx 3Extend 36Le 14Extend 1Xx 10Nu 4Xx 1Le 2Extend 1Le 8Xx 35Le 1Extend 2Xx",
   "1Le 9Xx 3Extend 48Le 14Extend 4Le 4Xx 4Extend 1Xx 2Extend 10Nu 1Le 1Xx 1Le 35Xx 18Le 1Xx",
   "25Le 12Extend 6Xx 1Extend 2Le 1Extend 62Xx 7Le 1Xx 1Le 1Xx 4Le 1Xx 15Le 1Xx 10Le 7Xx 47Le",
   "12Extend 5Xx 10Nu 6Xx 4Extend 1Xx 8Le 2Xx 2Le 2Xx 22Le 1Xx 7Le 1Xx 2Le 1Xx 5Le 1Xx 2Extend",
   "1Le 7Extend 2Xx 2Extend 2Xx 3Extend 2Xx 1Le 6Xx 1Extend 5Xx 5Le 2Extend 2Xx 7Extend 3Xx",
   "5Extend 11Xx 10Le 1Xx 1Le 2Xx 1Le 1Xx 38Le 1Xx 1Le 9Extend 1Xx 1Extend 2Xx 1Extend 1Xx",
   "4Extend 1Xx 5Extend 1Le 1Extend 1Le 13Xx 2Extend 29Xx 53Le 18Extend 4Le 5Xx 10Nu 4Xx 1Extend",
   "3Le 30Xx 48Le 20Extend 2Le 1Xx 1Le 8Xx 10Nu 166Xx 47Le 7Extend 2Xx 9Extend 23Xx 4Le 2Extend",
   "34Xx 48Le 17Extend 3Xx 1Le 11Xx 10Nu 38Xx 43Le 13Extend 1Le 7Xx 10Nu 6Xx 20Nu 57Xx 15Extend",
   "4Xx 10Nu 198Xx 44Le 15Extend 101Xx 64Le 10Nu 21Xx 8Le 2Xx 1Le 2Xx 8Le 1Xx 2Le 1Xx 24Le",
   "6Extend 1Xx 2Extend 2Xx 4Extend 1Le 1Extend 1Le 2Extend 12Xx 10Nu 70Xx 8Le 2Xx 39Le 7Extend",
   "2Xx 7Extend 1Le 1Xx 1Le 1Extend 27Xx 1Le 10Extend 40Le 7Extend 1Le 4Extend 8Xx 1Extend 8Xx",
   "1Le 11Extend 46Le 16Extend 3Xx 1Le 18Xx 73Le 199Xx 33Le 15Xx 10Nu 6Xx 9Le 1Xx 37Le 8Extend",
   "1Xx 8Extend 1Le 15Xx 10Nu 24Xx 30Le 2Xx 22Extend 1Xx 14Extend 73Xx 7Le 1Xx 2Le 1Xx 38Le",
   "6Extend 3Xx 1Extend 1Xx 2Extend 1Xx 7Extend 1Le 1Extend 8Xx 10Nu 6Xx 6Le 1Xx 2Le 1Xx 32Le",
   "5Extend 1Xx 2Extend 1Xx 5Extend 1Le 7Xx 10Nu 310Xx 19Le 4Extend 9Xx 2Extend 1Le 1Extend 13Le",
   "1Xx 34Le 7Extend 3Xx 5Extend 13Xx 10Nu 1Extend 85Xx 1Le 79Xx 922Le 102Xx 111Le 17Xx 196Le",
   "2636Xx 97Le 15Xx 1072Le 16Fo 1Extend 6Le 15Extend 10Xx 3995Le 5Xx 583Le 6841Xx 30Le 18Extend",
   "10Nu 1734Xx 569Le 7Xx 31Le 1Xx 10Nu 6Xx 79Le 1Xx 10Nu 6Xx 30Le 2Xx 5Extend 11Xx 48Le 7Extend",
   "9Xx 4Le 12Xx 10Nu 9Xx 21Le 5Xx 19Le 432Xx 45Le 3Xx 10Nu 198Xx 64Le 128Xx 75Le 4Xx 1Extend",
   "1Le 55Extend 7Xx 4Extend 13Le 64Xx 2Le 1Xx 1Le 1Extend 11Xx 2Extend 16382Xx 4Ka 1Xx 7Ka 1Xx",
   "2Ka 1Xx 1Ka 287Xx 3Ka 50Xx 1Ka 14Xx 4Ka 2712Xx 107Le 5Xx 13Le 3Xx 9Le 7Xx 10Le 3Xx 2Extend",
   "1Xx 4Fo 4172Xx 10Nu 518Xx 46Extend 2Xx 23Extend 542Xx 5Extend 3Xx 6Extend 8Fo 8Extend 2Xx",
   "7Extend 30Xx 4Extend 148Xx 3Extend 443Xx 85Le 1Xx 71Le 1Xx 2Le 2Xx 1Le 2Xx 2Le 2Xx 4Le 1Xx",
   "12Le 1Xx 1Le 1Xx 7Le 1Xx 65Le 1Xx 4Le 2Xx 8Le 1Xx 7Le 1Xx 28Le 1Xx 4Le 1Xx 5Le 1Xx 1Le 3Xx",
   "7Le 1Xx 340Le 2Xx 25Le 1Xx 25Le 1Xx 31Le 1Xx 25Le 1Xx 31Le 1Xx 25Le 1Xx 31Le 1Xx 25Le 1Xx",
   "31Le 1Xx 25Le 1Xx 8Le 2Xx 50Nu 512Xx 55Extend 4Xx 50Extend 8Xx 1Extend 14Xx 1Extend 22Xx",
   "5Extend 1Xx 15Extend 1104Xx 31Le 6Xx 6Le 213Xx 7Extend 1Xx 17Extend 2Xx 7Extend 1Xx 2Extend",
   "1Xx 5Extend 5Xx 62Le 33Xx 1Extend 112Xx 45Le 3Xx 7Extend 7Le 2Xx 10Nu 4Xx 1Le 321Xx 30Le",
   "1Extend 17Xx 44Le 4Extend 10Nu 470Xx 28Le 4Extend 10Nu 214Xx 30Le 2Extend 1Le 10Nu 485Xx 7Le",
   "1Xx 4Le 1Xx 2Le 1Xx 15Le 1Xx 197Le 11Xx 7Extend 41Xx 68Le 7Extend 1Le 4Xx 10Nu 1190Xx 4Le",
   "1Xx 27Le 1Xx 2Le 1Xx 1Le 2Xx 1Le 1Xx 10Le 1Xx 4Le 1Xx 1Le 1Xx 1Le 6Xx 1Le 4Xx 1Le 1Xx 1Le",
   "1Xx 1Le 1Xx 3Le 1Xx 2Le 1Xx 1Le 2Xx 1Le 1Xx 1Le 1Xx 1Le 1Xx 1Le 1Xx 1Le 1Xx 2Le 1Xx 1Le 2Xx",
   "4Le 1Xx 7Le 1Xx 4Le 1Xx 4Le 1Xx 1Le 1Xx 10Le 1Xx 17Le 5Xx 3Le 1Xx 5Le 1Xx 17Le 628Xx 26Le",
   "6Xx 26Le 6Xx 26Le 92Xx 26Ri 507Xx 5Extend 2032Xx 10Nu 787463Xx 1Fo 30Xx 96Extend 128Xx",
   "240Extend 196112Xx"]

/-- The codes of those classes, each followed by its names. -/
def wordBreakNames : List String :=
  ["Cr cr Dq doublequote dq Ex ex extendnumlet Extend extend Fo fo format Hl hebrewletter hl Ka",
   "ka katakana Le aletter le Lf lf Mb mb midnumlet Ml midletter ml Mn midnum mn Nl newline nl",
   "Nu nu numeric Ri regionalindicator ri Sq singlequote sq Wsegspace wsegspace Zwj zwj"]

end UriRouting.Unicode
