/-!
# The boundaries of clusters as runs

The classes by which Unicode 16 cuts a text into clusters, written as runs in ascending order from zero: the
length of a run in decimal, followed by the code of its class.  A code point that is in no class has the
code `Xx`.  Beside the table stand the names of the classes, in lower case and without separators: a word
with a capital letter is a code, and the words after it are names of its class.
-/

namespace UriRouting.Unicode

/-- The runs of the classes by which a text is cut into clusters. -/
def clusterBreakRuns : List String :=
  ["10Cn 1Lf 2Cn 1Cr 18Cn 95Xx 33Cn 13Xx 1Cn 594Xx 112Ex 275Xx 7Ex 263Xx 45Ex 1Xx 1Ex 1Xx 2Ex",
   "1Xx 2Ex 1Xx 1Ex 56Xx 6Pp 10Xx 11Ex 1Xx 1Cn 46Xx 21Ex 16Xx 1Ex 101Xx 7Ex 1Pp 1Xx 6Ex 2Xx 2Ex",
   "1Xx 4Ex 33Xx 1Pp 1Xx 1Ex 30Xx 27Ex 91Xx 11Ex 58Xx 9Ex 9Xx 1Ex 24Xx 4Ex 1Xx 9Ex 1Xx 3Ex 1Xx",
   "5Ex 43Xx 3Ex 52Xx 2Pp 5Xx 9Ex 42Xx 24Ex 1Pp 32Ex 1Sm 54Xx 1Ex 1Sm 1Ex 1Xx 3Sm 8Ex 4Sm 1Ex",
   "2Sm 1Xx 7Ex 10Xx 2Ex 29Xx 1Ex 2Sm 56Xx 1Ex 1Xx 1Ex 2Sm 4Ex 2Xx 2Sm 2Xx 2Sm 1Ex 9Xx 1Ex 10Xx",
   "2Ex 26Xx 1Ex 2Xx 2Ex 1Sm 56Xx 1Ex 1Xx 3Sm 2Ex 4Xx 2Ex 2Xx 3Ex 3Xx 1Ex 30Xx 2Ex 3Xx 1Ex 11Xx",
   "2Ex 1Sm 56Xx 1Ex 1Xx 3Sm 5Ex 1Xx 2Ex 1Sm 1Xx 2Sm 1Ex 20Xx 2Ex 22Xx 6Ex 1Xx 1Ex 2Sm 56Xx 1Ex",
   "1Xx 2Ex 1Sm 4Ex 2Xx 2Sm 2Xx 2Sm 1Ex 7Xx 3Ex 10Xx 2Ex 30Xx 1Ex 59Xx 1Ex 1Sm 1Ex 2Sm 3Xx 3Sm",
   "1Xx 3Sm 1Ex 9Xx 1Ex 40Xx 1Ex 3Sm 1Ex 55Xx 1Ex 1Xx 3Ex 4Sm 1Xx 3Ex 1Xx 4Ex 7Xx 2Ex 11Xx 2Ex",
   "29Xx 1Ex 2Sm 56Xx 1Ex 1Xx 1Sm 2Ex 1Sm 1Ex 2Sm 1Xx 3Ex 1Xx 4Ex 7Xx 2Ex 11Xx 2Ex 15Xx 1Sm 12Xx",
   "2Ex 2Sm 55Xx 2Ex 1Xx 1Ex 2Sm 4Ex 1Xx 3Sm 1Xx 3Sm 1Ex 1Pp 8Xx 1Ex 10Xx 2Ex 29Xx 1Ex 2Sm 70Xx",
   "1Ex 4Xx 1Ex 2Sm 3Ex 1Xx 1Ex 1Xx 7Sm 1Ex 18Xx 2Sm 61Xx 1Ex 1Xx 1Sm 7Ex 12Xx 8Ex 98Xx 1Ex 1Xx",
   "1Sm 9Ex 11Xx 7Ex 73Xx 2Ex 27Xx 1Ex 1Xx 1Ex 1Xx 1Ex 4Xx 2Sm 49Xx 14Ex 1Sm 5Ex 1Xx 2Ex 5Xx",
   "11Ex 1Xx 36Ex 9Xx 1Ex 102Xx 4Ex 1Sm 6Ex 1Xx 2Ex 2Sm 2Ex 23Xx 2Sm 2Ex 4Xx 3Ex 16Xx 4Ex 13Xx",
   "1Ex 1Xx 1Sm 2Ex 6Xx 1Ex 15Xx 1Ex 98Xx 96L 72V 88T 349Xx 3Ex 946Xx 4Ex 28Xx 3Ex 29Xx 2Ex 30Xx",
   "2Ex 64Xx 2Ex 1Sm 7Ex 8Sm 1Ex 2Sm 11Ex 9Xx 1Ex 45Xx 3Ex 1Cn 1Ex 117Xx 2Ex 34Xx 1Ex 118Xx 3Ex",
   "4Sm 2Ex 3Sm 4Xx 2Sm 1Ex 6Sm 3Ex 219Xx 2Ex 2Sm 1Ex 57Xx 1Sm 1Ex 1Sm 7Ex 1Xx 1Ex 1Xx 1Ex 2Xx",
   "8Ex 6Sm 10Ex 2Xx 1Ex 48Xx 31Ex 49Xx 4Ex 1Sm 47Xx 10Ex 4Sm 3Ex 38Xx 9Ex 12Xx 2Ex 1Sm 30Xx 1Sm",
   "4Ex 2Sm 6Ex 56Xx 1Ex 1Sm 2Ex 3Sm 1Ex 1Sm 5Ex 48Xx 8Sm 8Ex 2Sm 2Ex 152Xx 3Ex 1Xx 13Ex 1Sm 7Ex",
   "4Xx 1Ex 6Xx 1Ex 2Xx 1Sm 2Ex 198Xx 64Ex 523Xx 1Cn 1Ex 1Zwj 2Cn 24Xx 7Cn 49Xx 16Cn 96Xx 33Ex",
   "3070Xx 3Ex 141Xx 1Ex 96Xx 32Ex 554Xx 6Ex 105Xx 2Ex 30164Xx 4Ex 1Xx 10Ex 32Xx 2Ex 80Xx 2Ex",
   "272Xx 1Ex 3Xx 1Ex 4Xx 1Ex 23Xx 2Sm 2Ex 1Sm 4Xx 1Ex 83Xx 2Sm 50Xx 16Sm 2Ex 26Xx 18Ex 13Xx 1Ex",
   "38Xx 8Ex 25Xx 11Ex 1Sm 1Ex 12Xx 29L 3Xx 3Ex 1Sm 47Xx 1Ex 2Sm 4Ex 2Sm 2Ex 2Sm 1Ex 36Xx 1Ex",
   "67Xx 6Ex 2Sm 2Ex 2Sm 2Ex 12Xx 1Ex 8Xx 1Ex 1Sm 46Xx 1Ex 51Xx 1Ex 1Xx 3Ex 2Xx 2Ex 5Xx 2Ex 1Xx",
   "1Ex 41Xx 1Sm 2Ex 2Sm 5Xx 1Sm 1Ex 236Xx 2Sm 1Ex 2Sm 1Ex 2Sm 1Xx 1Sm 1Ex 18Xx 1Lv 27Lvt 1Lv",
   "27Lvt 1Lv 27Lvt 1Lv 27Lvt 1Lv 27Lvt 1Lv 27Lvt 1Lv 27Lvt 1Lv 27Lvt 1Lv 27Lvt 1Lv 27Lvt 1Lv",
   "27Lvt 1Lv 27Lvt 1Lv 27Lvt 1Lv 27Lvt 1Lv 27Lvt 1Lv 27Lvt 1Lv 27Lvt 1Lv 27Lvt 1Lv 27Lvt 1Lv",
   "27Lvt 1Lv 27Lvt 1Lv 27Lvt 1Lv 27Lvt 1Lv 27Lvt 1Lv 27Lvt 1Lv 27Lvt 1Lv 27Lvt 1Lv 27Lvt 1Lv",
   "27Lvt 1Lv 27Lvt 1Lv 27Lvt 1Lv 27Lvt 1Lv 27Lvt 1Lv 27Lvt 1Lv 27Lvt 1Lv 27Lvt 1Lv 27Lvt 1Lv",
   "27Lvt 1Lv 27Lvt 1Lv 27Lvt 1Lv 27Lvt 1Lv 27Lvt 1Lv 27Lvt 1Lv 27Lvt 1Lv 27Lvt 1Lv 27Lvt 1Lv",
   "27Lvt 1Lv 27Lvt 1Lv 27Lvt 1Lv 27Lvt 1Lv 27Lvt 1Lv 27Lvt 1Lv 27Lvt 1Lv 27Lvt 1Lv 27Lvt 1Lv",
   "27Lvt 1Lv 27Lvt 1Lv 27Lvt 1Lv 27Lvt 1Lv 27Lvt 1Lv 27Lvt 1Lv 27Lvt 1Lv 27Lvt 1Lv 27Lvt 1Lv",
   "27Lvt 1Lv 27Lvt 1Lv 27Lvt 1Lv 27Lvt 1Lv 27Lvt 1Lv 27Lvt 1Lv 27Lvt 1Lv 27Lvt 1Lv 27Lvt 1Lv",
   "27Lvt 1Lv 27Lvt 1Lv 27Lvt 1Lv 27Lvt 1Lv 27Lvt 1Lv 27Lvt 1Lv 27Lvt 1Lv 27Lvt 1Lv 27Lvt 1Lv",
   "27Lvt 1Lv 27Lvt 1Lv 27Lvt 1Lv 27Lvt 1Lv 27Lvt 1Lv 27Lvt 1Lv 27Lvt 1Lv 27Lvt 1Lv 27Lvt 1Lv",
   "27Lvt 1Lv 27Lvt 1Lv 27Lvt 1Lv 27Lvt 1Lv 27Lvt 1Lv 27Lvt 1Lv 27Lvt 1Lv 27Lvt 1Lv 27Lvt 1Lv",
   "27Lvt 1Lv 27Lvt 1Lv 27Lvt 1Lv 27Lvt 1Lv 27Lvt 1Lv 27Lvt 1Lv 27Lvt 1Lv 27Lvt 1Lv 27Lvt 1Lv",
   "27Lvt 1Lv 27Lvt 1Lv 27Lvt 1Lv 27Lvt 1Lv 27Lvt 1Lv 27Lvt 1Lv 27Lvt 1Lv 27Lvt 1Lv 27Lvt 1Lv",
   "27Lvt 1Lv 27Lvt 1Lv 27Lvt 1Lv 27Lvt 1Lv 27Lvt 1Lv 27Lvt 1Lv 27Lvt 1Lv 27Lvt 1Lv 27Lvt 1Lv",
   "27Lvt 1Lv 27Lvt 1Lv 27Lvt 1Lv 27Lvt 1Lv 27Lvt 1Lv 27Lvt 1Lv 27Lvt 1Lv 27Lvt 1Lv 27Lvt 1Lv",
   "27Lvt 1Lv 27Lvt 1Lv 27Lvt 1Lv 27Lvt 1Lv 27Lvt 1Lv 27Lvt 1Lv 27Lvt 1Lv 27Lvt 1Lv 27Lvt 1Lv",
   "27Lvt 1Lv 27Lvt 1Lv 27Lvt 1Lv 27Lvt 1Lv 27Lvt 1Lv 27Lvt 1Lv 27Lvt 1Lv 27Lvt 1Lv 27Lvt 1Lv",
   "27Lvt 1Lv 27Lvt 1Lv 27Lvt 1Lv 27Lvt 1Lv 27Lvt 1Lv 27Lvt 1Lv 27Lvt 1Lv 27Lvt 1Lv 27Lvt 1Lv",
   "27Lvt 1Lv 27Lvt 1Lv 27Lvt 1Lv 27Lvt 1Lv 27Lvt 1Lv 27Lvt 1Lv 27Lvt 1Lv 27Lvt 1Lv 27Lvt 1Lv",
   "27Lvt 1Lv 27Lvt 1Lv 27Lvt 1Lv 27Lvt 1Lv 27Lvt 1Lv 27Lvt 1Lv 27Lvt 1Lv 27Lvt 1Lv 27Lvt 1Lv",
   "27Lvt 1Lv 27Lvt 1Lv 27Lvt 1Lv 27Lvt 1Lv 27Lvt 1Lv 27Lvt 1Lv 27Lvt 1Lv 27Lvt 1Lv 27Lvt 1Lv",
   "27Lvt 1Lv 27Lvt 1Lv 27Lvt 1Lv 27Lvt 1Lv 27Lvt 1Lv 27Lvt 1Lv 27Lvt 1Lv 27Lvt 1Lv 27Lvt 1Lv",
   "27Lvt 1Lv 27Lvt 1Lv 27Lvt 1Lv 27Lvt 1Lv 27Lvt 1Lv 27Lvt 1Lv 27Lvt 1Lv 27Lvt 1Lv 27Lvt 1Lv",
   "27Lvt 1Lv 27Lvt 1Lv 27Lvt 1Lv 27Lvt 1Lv 27Lvt 1Lv 27Lvt 1Lv 27Lvt 1Lv 27Lvt 1Lv 27Lvt 1Lv",
   "27Lvt 1Lv 27Lvt 1Lv 27Lvt 1Lv 27Lvt 1Lv 27Lvt 1Lv 27Lvt 1Lv 27Lvt 1Lv 27Lvt 1Lv 27Lvt 1Lv",
   "27Lvt 1Lv 27Lvt 1Lv 27Lvt 1Lv 27Lvt 1Lv 27Lvt 1Lv 27Lvt 1Lv 27Lvt 1Lv 27Lvt 1Lv 27Lvt 1Lv",
   "27Lvt 1Lv 27Lvt 1Lv 27Lvt 1Lv 27Lvt 1Lv 27Lvt 1Lv 27Lvt 1Lv 27Lvt 1Lv 27Lvt 1Lv 27Lvt 1Lv",
   "27Lvt 1Lv 27Lvt 1Lv 27Lvt 1Lv 27Lvt 1Lv 27Lvt 1Lv 27Lvt 1Lv 27Lvt 1Lv 27Lvt 1Lv 27Lvt 1Lv",
   "27Lvt 1Lv 27Lvt 1Lv 27Lvt 1Lv 27Lvt 1Lv 27Lvt 1Lv 27Lvt 1Lv 27Lvt 1Lv 27Lvt 1Lv 27Lvt 1Lv",
   "27Lvt 1Lv 27Lvt 1Lv 27Lvt 1Lv 27Lvt 1Lv 27Lvt 1Lv 27Lvt 1Lv 27Lvt 1Lv 27Lvt 1Lv 27Lvt 1Lv",
   "27Lvt 1Lv 27Lvt 1Lv 27Lvt 1Lv 27Lvt 1Lv 27Lvt 1Lv 27Lvt 1Lv 27Lvt 1Lv 27Lvt 1Lv 27Lvt 1Lv",
   "27Lvt 1Lv 27Lvt 1Lv 27Lvt 1Lv 27Lvt 1Lv 27Lvt 1Lv 27Lvt 1Lv 27Lvt 1Lv 27Lvt 1Lv 27Lvt 1Lv",
   "27Lvt 1Lv 27Lvt 1Lv 27Lvt 1Lv 27Lvt 1Lv 27Lvt 1Lv 27Lvt 1Lv 27Lvt 1Lv 27Lvt 1Lv 27Lvt 1Lv",
   "27Lvt 1Lv 27Lvt 1Lv 27Lvt 1Lv 27Lvt 1Lv 27Lvt 1Lv 27Lvt 1Lv 27Lvt 1Lv 27Lvt 1Lv 27Lvt 1Lv",
   "27Lvt 1Lv 27Lvt 1Lv 27Lvt 1Lv 27Lvt 1Lv 27Lvt 1Lv 27Lvt 1Lv 27Lvt 1Lv 27Lvt 1Lv 27Lvt 1Lv",
   "27Lvt 1Lv 27Lvt 1Lv 27Lvt 1Lv 27Lvt 1Lv 27Lvt 1Lv 27Lvt 1Lv 27Lvt 1Lv 27Lvt 1Lv 27Lvt 1Lv",
   "27Lvt 1Lv 27Lvt 1Lv 27Lvt 1Lv 27Lvt 1Lv 27Lvt 1Lv 27Lvt 1Lv 27Lvt 1Lv 27Lvt 1Lv 27Lvt 1Lv",
   "27Lvt 1Lv 27Lvt 1Lv 27Lvt 1Lv 27Lvt 1Lv 27Lvt 1Lv 27Lvt 1Lv 27Lvt 1Lv 27Lvt 1Lv 27Lvt 1Lv",
   "27Lvt 1Lv 27Lvt 1Lv 27Lvt 1Lv 27Lvt 1Lv 27Lvt 1Lv 27Lvt 1Lv 27Lvt 1Lv 27Lvt 1Lv 27Lvt 1Lv",
   "27Lvt 1Lv 27Lvt 1Lv 27Lvt 1Lv 27Lvt 1Lv 27Lvt 1Lv 27Lvt 1Lv 27Lvt 1Lv 27Lvt 1Lv 27Lvt 1Lv",
   "27Lvt 1Lv 27Lvt 1Lv 27Lvt 1Lv 27Lvt 1Lv 27Lvt 1Lv 27Lvt 1Lv 27Lvt 1Lv 27Lvt 1Lv 27Lvt 1Lv",
   "27Lvt 1Lv 27Lvt 1Lv 27Lvt 1Lv 27Lvt 1Lv 27Lvt 1Lv 27Lvt 1Lv 27Lvt 1Lv 27Lvt 1Lv 27Lvt 1Lv",
   "27Lvt 1Lv 27Lvt 1Lv 27Lvt 1Lv 27Lvt 1Lv 27Lvt 1Lv 27Lvt 1Lv 27Lvt 1Lv 27Lvt 1Lv 27Lvt 1Lv",
   "27Lvt 1Lv 27Lvt 1Lv 27Lvt 1Lv 27Lvt 1Lv 27Lvt 1Lv 27Lvt 1Lv 27Lvt 1Lv 27Lvt 1Lv 27Lvt 1Lv",
   "27Lvt 1Lv 27Lvt 12Xx 23V 4Xx 49T 4Xx 2048Cn 6942Xx 1Ex 737Xx 16Ex 16Xx 16Ex 207Xx 1Cn 158Xx",
   "2Ex 80Xx 12Cn 513Xx 1Ex 226Xx 1Ex 149Xx 5Ex 1670Xx 3Ex 1Xx 2Ex 5Xx 4Ex 40Xx 3Ex 4Xx 1Ex",
   "165Xx 2Ex 573Xx 4Ex 65Xx 5Ex 317Xx 2Ex 79Xx 4Ex 70Xx 11Ex 49Xx 4Ex 122Xx 1Sm 1Ex 1Sm 53Xx",
   "15Ex 41Xx 1Ex 2Xx 2Ex 10Xx 3Ex 1Sm 45Xx 3Sm 4Ex 2Sm 2Ex 2Xx 1Pp 4Xx 1Ex 10Xx 1Pp 50Xx 3Ex",
   "36Xx 5Ex 1Sm 8Ex 16Xx 2Sm 44Xx 1Ex 12Xx 2Ex 1Sm 48Xx 3Sm 9Ex 1Sm 1Ex 1Xx 2Pp 5Xx 4Ex 1Xx 1Sm",
   "1Ex 92Xx 3Sm 3Ex 2Sm 4Ex 6Xx 1Ex 2Xx 1Ex 157Xx 1Ex 3Sm 8Ex 21Xx 2Ex 2Sm 55Xx 2Ex 1Xx 1Ex 1Sm",
   "1Ex 4Sm 2Xx 2Sm 2Xx 2Sm 1Ex 9Xx 1Ex 10Xx 2Sm 2Xx 7Ex 3Xx 5Ex 67Xx 1Ex 2Sm 6Ex 1Xx 1Ex 2Xx",
   "1Ex 1Xx 3Ex 1Sm 1Xx 2Sm 3Ex 1Pp 1Ex 14Xx 2Ex 82Xx 3Sm 8Ex 2Sm 3Ex 1Sm 1Ex 23Xx 1Ex 81Xx 1Ex",
   "2Sm 6Ex 1Sm 1Ex 2Sm 1Ex 1Sm 2Ex 1Sm 2Ex 235Xx 1Ex 2Sm 4Ex 2Xx 4Sm 2Ex 1Sm 2Ex 27Xx 2Ex 82Xx",
   "3Sm 8Ex 2Sm 1Ex 1Sm 2Ex 106Xx 1Ex 1Sm 1Ex 2Sm 8Ex 101Xx 1Ex 1Sm 1Ex 2Xx 4Ex 1Sm 5Ex 256Xx",
   "3Sm 9Ex 1Sm 2Ex 245Xx 1Ex 5Sm 1Xx 2Sm 2Xx 4Ex 1Pp 1Sm 1Pp 1Sm 1Ex 141Xx 3Sm 4Ex 2Xx 2Ex 4Sm",
   "1Ex 3Xx 1Sm 28Xx 10Ex 40Xx 6Ex 1Sm 1Pp 4Ex 8Xx 1Ex 9Xx 6Ex 2Sm 3Ex 40Xx 6Pp 13Ex 1Sm 2Ex",
   "405Xx 1Sm 7Ex 1Xx 6Ex 1Sm 1Ex 82Xx 22Ex 1Xx 1Sm 7Ex 1Sm 2Ex 1Sm 2Ex 122Xx 6Ex 3Xx 1Ex 1Xx",
   "2Ex 1Xx 7Ex 1Pp 1Ex 66Xx 5Sm 1Xx 2Ex 1Xx 2Sm 1Ex 1Sm 1Ex 347Xx 2Ex 2Sm 9Xx 2Ex 1Pp 1Sm 48Xx",
   "2Sm 5Ex 3Xx 2Sm 3Ex 23Xx 1Ex 5333Xx 16Cn 1Ex 6Xx 15Ex 11464Xx 12Ex 3Sm 3Ex 2496Xx 5Ex 59Xx",
   "7Ex 556Xx 1V 3Xx 4V 484Xx 1Ex 1Xx 55Sm 7Xx 4Ex 81Xx 1Ex 11Xx 2Ex 19627Xx 2Ex 1Xx 4Cn 4700Xx",
   "46Ex 2Xx 23Ex 542Xx 5Ex 3Xx 6Ex 8Cn 8Ex 2Xx 7Ex 30Xx 4Ex 148Xx 3Ex 1979Xx 55Ex 4Xx 50Ex 8Xx",
   "1Ex 14Xx 1Ex 22Xx 5Ex 1Xx 15Ex 1360Xx 7Ex 1Xx 17Ex 2Xx 7Ex 1Xx 2Ex 1Xx 5Ex 100Xx 1Ex 160Xx",
   "7Ex 375Xx 1Ex 61Xx 4Ex 508Xx 4Ex 254Xx 2Ex 736Xx 7Ex 109Xx 7Ex 2203Xx 26Ri 507Xx 5Ex",
   "789504Xx 32Cn 96Ex 128Cn 240Ex 3600Cn 192512Xx"]

/-- The codes of those classes, each followed by its names. -/
def clusterBreakNames : List String :=
  ["Cn cn control Cr cr Ex ex extend L l Lf lf Lv lv Lvt lvt Pp pp prepend Ri regionalindicator",
   "ri Sm sm spacingmark T t V v Zwj zwj"]

end UriRouting.Unicode
