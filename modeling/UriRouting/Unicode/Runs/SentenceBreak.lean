/-!
# The boundaries of sentences as runs

The classes by which Unicode 16 cuts a text into sentences, written as runs in ascending order from zero: the
length of a run in decimal, followed by the code of its class.  A code point that is in no class has the
code `Xx`.  Beside the table stand the names of the classes, in lower case and without separators: a word
with a capital letter is a code, and the words after it are names of its class.
-/

namespace UriRouting.Unicode

/-- The runs of the classes by which a text is cut into sentences. -/
def sentenceBreakRuns : List String :=
  ["9Xx 1Sp 1Lf 2Sp 1Cr 18Xx 1Sp 1St 1Cl 4Xx 3Cl 2Xx 2Sc 1At 1Xx 10Nu 2Sc 3Xx 1St 1Xx 26Up 1Cl",
   "1Xx 1Cl 3Xx 26Lo 1Cl 1Xx 1Cl 7Xx 1Se 26Xx 1Sp 9Xx 1Lo 1Cl 1Xx 1Fo 7Xx 1Lo 4Xx 1Lo 1Cl 4Xx",
   "23Up 1Xx 7Up 24Lo 1Xx 8Lo 1Up 1Lo 1Up 1Lo 1Up 1Lo 1Up 1Lo 1Up 1Lo 1Up 1Lo 1Up 1Lo 1Up 1Lo",
   "1Up 1Lo 1Up 1Lo 1Up 1Lo 1Up 1Lo 1Up 1Lo 1Up 1Lo 1Up 1Lo 1Up 1Lo 1Up 1Lo 1Up 1Lo 1Up 1Lo 1Up",
   "1Lo 1Up 1Lo 1Up 1Lo 1Up 1Lo 1Up 1Lo 1Up 1Lo 1Up 1Lo 1Up 1Lo 1Up 2Lo 1Up 1Lo 1Up 1Lo 1Up 1Lo",
   "1Up 1Lo 1Up 1Lo 1Up 1Lo 1Up 1Lo 1Up 2Lo 1Up 1Lo 1Up 1Lo 1Up 1Lo 1Up 1Lo 1Up 1Lo 1Up 1Lo 1Up",
   "1Lo 1Up 1Lo 1Up 1Lo 1Up 1Lo 1Up 1Lo 1Up 1Lo 1Up 1Lo 1Up 1Lo 1Up 1Lo 1Up 1Lo 1Up 1Lo 1Up 1Lo",
   "1Up 1Lo 1Up 1Lo 1Up 1Lo 1Up 1Lo 1Up 1Lo 2Up 1Lo 1Up 1Lo 1Up 3Lo 2Up 1Lo 1Up 1Lo 2Up 1Lo 3Up",
   "2Lo 4Up 1Lo 2Up 1Lo 3Up 3Lo 2Up 1Lo 2Up 1Lo 1Up 1Lo 1Up 1Lo 2Up 1Lo 1Up 2Lo 1Up 1Lo 2Up 1Lo",
   "3Up 1Lo 1Up 1Lo 2Up 2Lo 1Le 1Up 3Lo 4Le 2Up 1Lo 2Up 1Lo 2Up 1Lo 1Up 1Lo 1Up 1Lo 1Up 1Lo 1Up",
   "1Lo 1Up 1Lo 1Up 1Lo 1Up 1Lo 1Up 2Lo 1Up 1Lo 1Up 1Lo 1Up 1Lo 1Up 1Lo 1Up 1Lo 1Up 1Lo 1Up 1Lo",
   "1Up 1Lo 1Up 2Lo 2Up 1Lo 1Up 1Lo 3Up 1Lo 1Up 1Lo 1Up 1Lo 1Up 1Lo 1Up 1Lo 1Up 1Lo 1Up 1Lo 1Up",
   "1Lo 1Up 1Lo 1Up 1Lo 1Up 1Lo 1Up 1Lo 1Up 1Lo 1Up 1Lo 1Up 1Lo 1Up 1Lo 1Up 1Lo 1Up 1Lo 1Up 1Lo",
   "1Up 1Lo 1Up 1Lo 1Up 1Lo 1Up 1Lo 1Up 1Lo 1Up 1Lo 1Up 1Lo 1Up 1Lo 1Up 1Lo 1Up 1Lo 1Up 7Lo 2Up",
   "1Lo 2Up 2Lo 1Up 1Lo 4Up 1Lo 1Up 1Lo 1Up 1Lo 1Up 1Lo 1Up 69Lo 1Le 36Lo 7Le 2Lo 4Xx 12Le 14Xx",
   "5Lo 7Xx 1Le 1Xx 1Le 17Xx 112Ex 1Up 1Lo 1Up 1Lo 1Le 1Xx 1Up 1Lo 2Xx 4Lo 1Sc 1Up 6Xx 1Up 1Xx",
   "3Up 1Xx 1Up 1Xx 2Up 1Lo 17Up 1Xx 9Up 35Lo 1Up 2Lo 3Up 3Lo 1Up 1Lo 1Up 1Lo 1Up 1Lo 1Up 1Lo",
   "1Up 1Lo 1Up 1Lo 1Up 1Lo 1Up 1Lo 1Up 1Lo 1Up 1Lo 1Up 1Lo 1Up 5Lo 1Up 1Lo 1Xx 1Up 1Lo 2Up 2Lo",
   "51Up 48Lo 1Up 1Lo 1Up 1Lo 1Up 1Lo 1Up 1Lo 1Up 1Lo 1Up 1Lo 1Up 1Lo 1Up 1Lo 1Up 1Lo 1Up 1Lo",
   "1Up 1Lo 1Up 1Lo 1Up 1Lo 1Up 1Lo 1Up 1Lo 1Up 1Lo 1Up 1Lo 1Xx 7Ex 1Up 1Lo 1Up 1Lo 1Up 1Lo 1Up",
   "1Lo 1Up 1Lo 1Up 1Lo 1Up 1Lo 1Up 1Lo 1Up 1Lo 1Up 1Lo 1Up 1Lo 1Up 1Lo 1Up 1Lo 1Up 1Lo 1Up 1Lo",
   "1Up 1Lo 1Up 1Lo 1Up 1Lo 1Up 1Lo 1Up 1Lo 1Up 1Lo 1Up 1Lo 1Up 1Lo 1Up 1Lo 1Up 1Lo 1Up 1Lo 1Up",
   "1Lo 2Up 1Lo 1Up 1Lo 1Up 1Lo 1Up 1Lo 1Up 1Lo 1Up 1Lo 1Up 2Lo 1Up 1Lo 1Up 1Lo 1Up 1Lo 1Up 1Lo",
   "1Up 1Lo 1Up 1Lo 1Up 1Lo 1Up 1Lo 1Up 1Lo 1Up 1Lo 1Up 1Lo 1Up 1Lo 1Up 1Lo 1Up 1Lo 1Up 1Lo 1Up",
   "1Lo 1Up 1Lo 1Up 1Lo 1Up 1Lo 1Up 1Lo 1Up 1Lo 1Up 1Lo 1Up 1Lo 1Up 1Lo 1Up 1Lo 1Up 1Lo 1Up 1Lo",
   "1Up 1Lo 1Up 1Lo 1Up 1Lo 1Up 1Lo 1Up 1Lo 1Up 1Lo 1Up 1Lo 1Up 1Lo 1Up 1Lo 1Up 1Lo 1Up 1Lo 1Up",
   "1Lo 1Up 1Lo 1Up 1Lo 1Up 1Lo 1Up 1Lo 1Up 1Lo 1Up 1Lo 1Up 1Lo 1Up 1Lo 1Up 1Lo 1Xx 38Up 2Xx 1Le",
   "3Xx 1Sc 2Xx 41Lo 1St 7Xx 45Ex 1Xx 1Ex 1Xx 2Ex 1Xx 2Ex 1Xx 1Ex 8Xx 27Le 4Xx 5Le 12Xx 6Nu 6Xx",
   "2Sc 2Xx 11Ex 1Xx 1Fo 3St 43Le 21Ex 10Nu 1Xx 2Nu 1Xx 2Le 1Ex 99Le 1St 1Le 7Ex 1Nu 1Xx 6Ex 2Le",
   "2Ex 1Xx 4Ex 2Le 10Nu 3Le 2Xx 1Le 3St 12Xx 1Fo 1Le 1Ex 30Le 27Ex 2Xx 89Le 11Ex 1Le 14Xx 10Nu",
   "33Le 9Ex 2Le 2Xx 1Sc 1St 1Le 2Xx 1Ex 2Xx 22Le 4Ex 1Le 9Ex 1Le 3Ex 1Le 5Ex 9Xx 1St 1Xx 1St",
   "3Xx 2St 1Xx 25Le 3Ex 4Xx 11Le 5Xx 24Le 1Xx 6Le 1Xx 2Nu 5Xx 9Ex 42Le 24Ex 1Nu 33Ex 54Le 3Ex",
   "1Le 18Ex 1Le 7Ex 10Le 2Ex 2St 10Nu 1Xx 16Le 3Ex 1Xx 8Le 2Xx 2Le 2Xx 22Le 1Xx 7Le 1Xx 1Le 3Xx",
   "4Le 2Xx 1Ex 1Le 7Ex 2Xx 2Ex 2Xx 3Ex 1Le 8Xx 1Ex 4Xx 2Le 1Xx 3Le 2Ex 2Xx 10Nu 2Le 10Xx 1Le",
   "1Xx 1Ex 2Xx 3Ex 1Xx 6Le 4Xx 2Le 2Xx 22Le 1Xx 7Le 1Xx 2Le 1Xx 2Le 1Xx 2Le 2Xx 1Ex 1Xx 5Ex 4Xx",
   "2Ex 2Xx 3Ex 3Xx 1Ex 7Xx 4Le 1Xx 1Le 7Xx 10Nu 2Ex 3Le 1Ex 11Xx 3Ex 1Xx 9Le 1Xx 3Le 1Xx 22Le",
   "1Xx 7Le 1Xx 2Le 1Xx 5Le 2Xx 1Ex 1Le 8Ex 1Xx 3Ex 1Xx 3Ex 2Xx 1Le 15Xx 2Le 2Ex 2Xx 10Nu 9Xx",
   "1Le 6Ex 1Xx 3Ex 1Xx 8Le 2Xx 2Le 2Xx 22Le 1Xx 7Le 1Xx 2Le 1Xx 5Le 2Xx 1Ex 1Le 7Ex 2Xx 2Ex 2Xx",
   "3Ex 7Xx 3Ex 4Xx 2Le 1Xx 3Le 2Ex 2Xx 10Nu 1Xx 1Le 16Xx 1Ex 1Le 1Xx 6Le 3Xx 3Le 1Xx 4Le 3Xx",
   "2Le 1Xx 1Le 1Xx 2Le 3Xx 2Le 3Xx 3Le 3Xx 12Le 4Xx 5Ex 3Xx 3Ex 1Xx 4Ex 2Xx 1Le 6Xx 1Ex 14Xx",
   "10Nu 16Xx 5Ex 8Le 1Xx 3Le 1Xx 23Le 1Xx 16Le 2Xx 1Ex 1Le 7Ex 1Xx 3Ex 1Xx 4Ex 7Xx 2Ex 1Xx 3Le",
   "2Xx 1Le 2Xx 2Le 2Ex 2Xx 10Nu 16Xx 1Le 3Ex 1Xx 8Le 1Xx 3Le 1Xx 23Le 1Xx 10Le 1Xx 5Le 2Xx 1Ex",
   "1Le 7Ex 1Xx 3Ex 1Xx 4Ex 7Xx 2Ex 6Xx 2Le 1Xx 2Le 2Ex 2Xx 10Nu 1Xx 2Le 1Ex 12Xx 4Ex 9Le 1Xx",
   "3Le 1Xx 41Le 2Ex 1Le 7Ex 1Xx 3Ex 1Xx 4Ex 1Le 5Xx 3Le 1Ex 7Xx 3Le 2Ex 2Xx 10Nu 10Xx 6Le 1Xx",
   "3Ex 1Xx 18Le 3Xx 24Le 1Xx 9Le 1Xx 1Le 2Xx 7Le 3Xx 1Ex 4Xx 6Ex 1Xx 1Ex 1Xx 8Ex 6Xx 10Nu 2Xx",
   "2Ex 13Xx 48Le 1Ex 2Le 7Ex 5Xx 7Le 8Ex 1Xx 10Nu 39Xx 2Le 1Xx 1Le 1Xx 5Le 1Xx 24Le 1Xx 1Le 1Xx",
   "10Le 1Ex 2Le 9Ex 1Le 2Xx 5Le 1Xx 1Le 1Xx 7Ex 1Xx 10Nu 2Xx 4Le 32Xx 1Le 23Xx 2Ex 6Xx 10Nu",
   "11Xx 1Ex 1Xx 1Ex 1Xx 1Ex 4Cl 2Ex 8Le 1Xx 36Le 4Xx 20Ex 1Xx 2Ex 5Le 11Ex 1Xx 36Ex 9Xx 1Ex",
   "57Xx 43Le 20Ex 1Le 10Nu 2St 4Xx 6Le 4Ex 4Le 3Ex 1Le 3Ex 2Le 7Ex 3Le 4Ex 13Le 12Ex 1Le 1Ex",
   "10Nu 4Ex 2Xx 38Up 1Xx 1Up 5Xx 1Up 2Xx 43Le 1Xx 1Lo 332Le 1Xx 4Le 2Xx 7Le 1Xx 1Le 1Xx 4Le 2Xx",
   "41Le 1Xx 4Le 2Xx 33Le 1Xx 4Le 2Xx 7Le 1Xx 1Le 1Xx 4Le 2Xx 15Le 1Xx 57Le 1Xx 4Le 2Xx 67Le 2Xx",
   "3Ex 2Xx 1St 4Xx 2St 23Xx 16Le 16Xx 86Up 2Xx 6Lo 3Xx 620Le 1Xx 1St 17Le 1Sp 26Le 2Cl 3Xx 75Le",
   "3Xx 11Le 7Xx 18Le 4Ex 9Xx 19Le 3Ex 2St 9Xx 18Le 2Ex 12Xx 13Le 1Xx 3Le 1Xx 2Ex 12Xx 52Le 32Ex",
   "2St 1Xx 1Le 4Xx 1Le 1Ex 2Xx 10Nu 24Xx 1Sc 1St 4Xx 1Sc 1St 1Xx 3Ex 1Fo 1Ex 10Nu 6Xx 89Le 7Xx",
   "5Le 2Ex 34Le 1Ex 1Le 5Xx 70Le 10Xx 31Le 1Xx 12Ex 4Xx 12Ex 8Xx 2St 10Nu 30Le 2Xx 5Le 11Xx",
   "44Le 4Xx 26Le 6Xx 11Nu 37Xx 23Le 5Ex 4Xx 53Le 10Ex 1Xx 29Ex 2Xx 1Ex 10Nu 6Xx 10Nu 13Xx 1Le",
   "4St 4Xx 31Ex 49Xx 5Ex 47Le 17Ex 8Le 1Xx 2St 10Nu 2St 2Xx 2St 11Xx 9Ex 9Xx 3St 3Ex 30Le 13Ex",
   "2Le 10Nu 44Le 14Ex 12Xx 36Le 20Ex 3Xx 2St 3Xx 10Nu 3Xx 3Le 10Nu 36Le 2St 9Lo 1Up 1Lo 5Xx",
   "43Le 2Xx 3Le 16Xx 3Ex 1Xx 21Ex 4Le 1Ex 6Le 1Ex 2Le 3Ex 1Le 5Xx 192Lo 64Ex 1Up 1Lo 1Up 1Lo",
   "1Up 1Lo 1Up 1Lo 1Up 1Lo 1Up 1Lo 1Up 1Lo 1Up 1Lo 1Up 1Lo 1Up 1Lo 1Up 1Lo 1Up 1Lo 1Up 1Lo 1Up",
   "1Lo 1Up 1Lo 1Up 1Lo 1Up 1Lo 1Up 1Lo 1Up 1Lo 1Up 1Lo 1Up 1Lo 1Up 1Lo 1Up 1Lo 1Up 1Lo 1Up 1Lo",
   "1Up 1Lo 1Up 1Lo 1Up 1Lo 1Up 1Lo 1Up 1Lo 1Up 1Lo 1Up 1Lo 1Up 1Lo 1Up 1Lo 1Up 1Lo 1Up 1Lo 1Up",
   "1Lo 1Up 1Lo 1Up 1Lo 1Up 1Lo 1Up 1Lo 1Up 1Lo 1Up 1Lo 1Up 1Lo 1Up 1Lo 1Up 1Lo 1Up 1Lo 1Up 1Lo",
   "1Up 1Lo 1Up 1Lo 1Up 1Lo 1Up 1Lo 1Up 1Lo 1Up 1Lo 1Up 1Lo 1Up 1Lo 1Up 1Lo 1Up 1Lo 1Up 1Lo 1Up",
   "1Lo 1Up 1Lo 1Up 1Lo 1Up 1Lo 1Up 1Lo 1Up 1Lo 1Up 1Lo 1Up 1Lo 1Up 1Lo 1Up 1Lo 1Up 1Lo 1Up 1Lo",
   "1Up 1Lo 1Up 1Lo 1Up 1Lo 1Up 9Lo 1Up 1Lo 1Up 1Lo 1Up 1Lo 1Up 1Lo 1Up 1Lo 1Up 1Lo 1Up 1Lo 1Up",
   "1Lo 1Up 1Lo 1Up 1Lo 1Up 1Lo 1Up 1Lo 1Up 1Lo 1Up 1Lo 1Up 1Lo 1Up 1Lo 1Up 1Lo 1Up 1Lo 1Up 1Lo",
   "1Up 1Lo 1Up 1Lo 1Up 1Lo 1Up 1Lo 1Up 1Lo 1Up 1Lo 1Up 1Lo 1Up 1Lo 1Up 1Lo 1Up 1Lo 1Up 1Lo 1Up",
   "1Lo 1Up 1Lo 1Up 1Lo 1Up 1Lo 1Up 1Lo 1Up 1Lo 1Up 1Lo 1Up 1Lo 1Up 1Lo 1Up 1Lo 1Up 1Lo 1Up 1Lo",
   "1Up 1Lo 1Up 1Lo 1Up 1Lo 1Up 1Lo 1Up 1Lo 1Up 1Lo 1Up 9Lo 8Up 6Lo 2Xx 6Up 2Xx 8Lo 8Up 8Lo 8Up",
   "6Lo 2Xx 6Up 2Xx 8Lo 1Xx 1Up 1Xx 1Up 1Xx 1Up 1Xx 1Up 8Lo 8Up 14Lo 2Xx 8Lo 8Up 8Lo 8Up 8Lo 8Up",
   "5Lo 1Xx 2Lo 5Up 1Xx 1Lo 3Xx 3Lo 1Xx 2Lo 5Up 3Xx 4Lo 2Xx 2Lo 4Up 4Xx 8Lo 5Up 5Xx 3Lo 1Xx 2Lo",
   "5Up 3Xx 11Sp 1Fo 2Ex 2Fo 3Xx 2Sc 3Xx 8Cl 4Xx 1At 3Xx 2Se 5Fo 1Sp 9Xx 2Cl 1Xx 2St 7Xx 2Cl 3St",
   "21Xx 1Sp 5Fo 1Xx 10Fo 1Xx 1Lo 11Xx 2Cl 1Lo 13Xx 2Cl 1Xx 13Lo 51Xx 33Ex 17Xx 1Up 4Xx 1Up 2Xx",
   "1Lo 3Up 2Lo 3Up 1Lo 1Xx 1Up 3Xx 5Up 6Xx 1Up 1Xx 1Up 1Xx 1Up 1Xx 4Up 1Xx 1Lo 4Up 1Lo 4Le 1Lo",
   "2Xx 2Lo 2Up 5Xx 1Up 4Lo 4Xx 1Lo 17Xx 16Up 16Lo 3Le 1Up 1Lo 4Le 383Xx 4Cl 29Xx 2Cl 395Xx 26Up",
   "26Lo 625Xx 6Cl 7Xx 14Cl 79Xx 2Cl 31Xx 10Cl 403Xx 22Cl 63Xx 4Cl 32Xx 2Cl 514Xx 48Up 48Lo 1Up",
   "1Lo 3Up 2Lo 1Up 1Lo 1Up 1Lo 1Up 1Lo 4Up 1Lo 1Up 2Lo 1Up 8Lo 3Up 1Lo 1Up 1Lo 1Up 1Lo 1Up 1Lo",
   "1Up 1Lo 1Up 1Lo 1Up 1Lo 1Up 1Lo 1Up 1Lo 1Up 1Lo 1Up 1Lo 1Up 1Lo 1Up 1Lo 1Up 1Lo 1Up 1Lo 1Up",
   "1Lo 1Up 1Lo 1Up 1Lo 1Up 1Lo 1Up 1Lo 1Up 1Lo 1Up 1Lo 1Up 1Lo 1Up 1Lo 1Up 1Lo 1Up 1Lo 1Up 1Lo",
   "1Up 1Lo 1Up 1Lo 1Up 1Lo 1Up 1Lo 1Up 1Lo 1Up 1Lo 1Up 1Lo 1Up 1Lo 1Up 1Lo 1Up 1Lo 1Up 1Lo 1Up",
   "1Lo 1Up 1Lo 1Up 1Lo 1Up 1Lo 1Up 1Lo 1Up 1Lo 1Up 1Lo 1Up 1Lo 1Up 1Lo 1Up 1Lo 1Up 1Lo 1Up 2Lo",
   "6Xx 1Up 1Lo 1Up 1Lo 3Ex 1Up 1Lo 5Xx 3St 4Xx 38Lo 1Xx 1Lo 5Xx 1Lo 2Xx 56Le 7Xx 1Le 15Xx 1Ex",
   "23Le 9Xx 7Le 1Xx 7Le 1Xx 7Le 1Xx 7Le 1Xx 7Le 1Xx 7Le 1Xx 7Le 1Xx 7Le 1Xx 32Ex 14Cl 14Xx 2Cl",
   "2Xx 10Cl 4Xx 1St 1Le 12Xx 1St 5Xx 1Cl 16Xx 2St 8Cl 419Xx 1Sp 1Sc 1St 2Xx 3Le 10Cl 2Xx 8Cl",
   "1Xx 3Cl 1Xx 9Le 6Ex 1Xx 5Le 2Xx 5Le 4Xx 86Le 2Xx 2Ex 2Xx 3Le 1Xx 90Le 1Xx 4Le 5Xx 43Le 1Xx",
   "94Le 17Xx 32Le 48Xx 16Le 512Xx 6592Le 64Xx 22157Le 67Xx 46Le 1Xx 1St 269Le 1Xx 2St 16Le 10Nu",
   "2Le 20Xx 1Up 1Lo 1Up 1Lo 1Up 1Lo 1Up 1Lo 1Up 1Lo 1Up 1Lo 1Up 1Lo 1Up 1Lo 1Up 1Lo 1Up 1Lo 1Up",
   "1Lo 1Up 1Lo 1Up 1Lo 1Up 1Lo 1Up 1Lo 1Up 1Lo 1Up 1Lo 1Up 1Lo 1Up 1Lo 1Up 1Lo 1Up 1Lo 1Up 1Lo",
   "1Up 1Lo 1Le 4Ex 1Xx 10Ex 1Xx 1Le 1Up 1Lo 1Up 1Lo 1Up 1Lo 1Up 1Lo 1Up 1Lo 1Up 1Lo 1Up 1Lo 1Up",
   "1Lo 1Up 1Lo 1Up 1Lo 1Up 1Lo 1Up 1Lo 1Up 1Lo 1Up 3Lo 2Ex 80Le 2Ex 1Xx 1St 3Xx 1St 31Xx 9Le",
   "2Xx 1Up 1Lo 1Up 1Lo 1Up 1Lo 1Up 1Lo 1Up 1Lo 1Up 1Lo 1Up 3Lo 1Up 1Lo 1Up 1Lo 1Up 1Lo 1Up 1Lo",
   "1Up 1Lo 1Up 1Lo 1Up 1Lo 1Up 1Lo 1Up 1Lo 1Up 1Lo 1Up 1Lo 1Up 1Lo 1Up 1Lo 1Up 1Lo 1Up 1Lo 1Up",
   "1Lo 1Up 1Lo 1Up 1Lo 1Up 1Lo 1Up 1Lo 1Up 1Lo 1Up 1Lo 1Up 1Lo 1Up 1Lo 1Up 1Lo 1Up 1Lo 1Up 1Lo",
   "1Up 1Lo 1Up 1Lo 1Up 1Lo 1Up 10Lo 1Up 1Lo 1Up 1Lo 2Up 1Lo 1Up 1Lo 1Up 1Lo 1Up 1Lo 1Up 1Lo 1Le",
   "2Xx 1Up 1Lo 1Up 1Lo 1Le 1Up 1Lo 1Up 3Lo 1Up 1Lo 1Up 1Lo 1Up 1Lo 1Up 1Lo 1Up 1Lo 1Up 1Lo 1Up",
   "1Lo 1Up 1Lo 1Up 1Lo 1Up 1Lo 5Up 1Lo 5Up 1Lo 1Up 1Lo 1Up 1Lo 1Up 1Lo 1Up 1Lo 1Up 1Lo 1Up 1Lo",
   "1Up 1Lo 4Up 1Lo 1Up 1Lo 2Up 1Lo 2Xx 1Up 1Lo 1Xx 1Lo 1Xx 1Lo 1Up 1Lo 1Up 1Lo 1Up 1Lo 1Up 21Xx",
   "3Lo 1Up 1Lo 1Le 3Lo 7Le 1Ex 3Le 1Ex 4Le 1Ex 23Le 5Ex 4Xx 1Ex 19Xx 52Le 2Xx 2St 8Xx 2Ex 50Le",
   "18Ex 8Xx 2St 10Nu 6Xx 18Ex 6Le 3Xx 1Le 1Xx 2Le 1Ex 10Nu 28Le 8Ex 1Xx 1St 23Le 13Ex 12Xx 29Le",
   "3Xx 4Ex 47Le 14Ex 7Xx 2St 5Xx 1Le 10Nu 6Xx 5Le 1Ex 10Le 10Nu 5Le 1Xx 41Le 14Ex 9Xx 3Le 1Ex",
   "8Le 2Ex 2Xx 10Nu 3Xx 3St 23Le 3Xx 1Le 3Ex 50Le 1Ex 1Le 3Ex 2Le 2Ex 5Le 2Ex 1Le 1Ex 1Le 24Xx",
   "3Le 2Xx 11Le 5Ex 2St 3Le 2Ex 10Xx 6Le 2Xx 6Le 2Xx 6Le 9Xx 7Le 1Xx 7Le 1Xx 43Lo 1Xx 14Lo 6Xx",
   "80Lo 35Le 8Ex 1St 2Ex 2Xx 10Nu 6Xx 11172Le 12Xx 23Le 4Xx 49Le 8452Xx 366Le 2Xx 106Le 38Xx",
   "7Lo 12Xx 5Lo 5Xx 1Le 1Ex 10Le 1Xx 13Le 1Xx 5Le 1Xx 1Le 1Xx 2Le 1Xx 2Le 1Xx 108Le 33Xx 363Le",
   "2Cl 16Xx 64Le 2Xx 54Le 40Xx 12Le 4Xx 16Ex 2Sc 1St 2Sc 2St 2Cl 7Xx 16Ex 1Xx 2Sc 2Xx 16Cl 2Xx",
   "2Cl 7Xx 2Sc 1At 1Xx 2Sc 2St 1Sc 6Cl 4Xx 1Sc 12Xx 5Le 1Xx 135Le 2Xx 1Fo 1Xx 1St 6Xx 2Cl 2Xx",
   "2Sc 1At 1Xx 10Nu 2Sc 3Xx 1St 1Xx 26Up 1Cl 1Xx 1Cl 3Xx 26Lo 1Cl 1Xx 1Cl 1Xx 2Cl 1St 2Cl 1Sc",
   "1Xx 56Le 2Ex 31Le 3Xx 6Le 2Xx 6Le 2Xx 6Le 2Xx 3Le 28Xx 3Fo 4Xx 12Le 1Xx 26Le 1Xx 19Le 1Xx",
   "2Le 1Xx 15Le 2Xx 14Le 34Xx 123Le 69Xx 53Le 136Xx 1Ex 130Xx 29Le 3Xx 49Le 15Xx 1Ex 31Xx 32Le",
   "13Xx 30Le 5Xx 38Le 5Ex 5Xx 30Le 2Xx 36Le 4Xx 8Le 1Xx 5Le 42Xx 40Up 40Lo 78Le 2Xx 10Nu 6Xx",
   "36Up 4Xx 36Lo 4Xx 40Le 8Xx 52Le 12Xx 11Up 1Xx 15Up 1Xx 7Up 1Xx 2Up 1Xx 11Lo 1Xx 15Lo 1Xx 7Lo",
   "1Xx 2Lo 3Xx 52Le 12Xx 311Le 9Xx 22Le 10Xx 8Le 24Xx 1Lo 2Le 3Lo 1Xx 42Lo 1Xx 9Lo 69Xx 6Le 2Xx",
   "1Le 1Xx 44Le 1Xx 2Le 3Xx 1Le 2Xx 23Le 10Xx 23Le 9Xx 31Le 65Xx 19Le 1Xx 2Le 10Xx 22Le 10Xx",
   "26Le 70Xx 56Le 6Xx 2Le 64Xx 1Le 3Ex 1Xx 2Ex 5Xx 4Ex 4Le 1Xx 3Le 1Xx 29Le 2Xx 3Ex 4Xx 1Ex",
   "22Xx 2St 8Xx 29Le 3Xx 29Le 35Xx 8Le 1Xx 28Le 2Ex 25Xx 54Le 10Xx 22Le 10Xx 19Le 13Xx 18Le",
   "110Xx 73Le 55Xx 51Up 13Xx 51Lo 13Xx 36Le 4Ex 8Xx 10Nu 6Xx 10Nu 6Le 22Up 3Xx 5Ex 1Xx 1Le 22Lo",
   "250Xx 42Le 1Xx 2Ex 3Xx 2Le 16Xx 3Le 55Xx 4Ex 29Le 10Xx 1Le 8Xx 22Le 11Ex 4Xx 5St 22Xx 18Le",
   "4Ex 4St 38Xx 21Le 27Xx 23Le 9Xx 3Ex 53Le 15Ex 2St 29Xx 10Nu 1Ex 2Le 2Ex 1Le 9Xx 4Ex 45Le",
   "11Ex 2Xx 1Nu 4St 1Ex 10Xx 1Nu 2Xx 25Le 7Xx 10Nu 6Xx 3Ex 36Le 14Ex 1Xx 10Nu 1Xx 3St 1Le 2Ex",
   "1Le 8Xx 35Le 1Ex 2Xx 1Le 9Xx 3Ex 48Le 14Ex 4Le 2St 2Xx 4Ex 1St 2Ex 10Nu 1Le 1Xx 1Le 1Xx 2St",
   "32Xx 18Le 1Xx 25Le 12Ex 2St 1Xx 2St 1Xx 1Ex 2Le 1Ex 62Xx 7Le 1Xx 1Le 1Xx 4Le 1Xx 15Le 1Xx",
   "10Le 1St 6Xx 47Le 12Ex 5Xx 10Nu 6Xx 4Ex 1Xx 8Le 2Xx 2Le 2Xx 22Le 1Xx 7Le 1Xx 2Le 1Xx 5Le 1Xx",
   "2Ex 1Le 7Ex 2Xx 2Ex 2Xx 3Ex 2Xx 1Le 6Xx 1Ex 5Xx 5Le 2Ex 2Xx 7Ex 3Xx 5Ex 11Xx 10Le 1Xx 1Le",
   "2Xx 1Le 1Xx 38Le 1Xx 1Le 9Ex 1Xx 1Ex 2Xx 1Ex 1Xx 4Ex 1Xx 5Ex 1Le 1Ex 1Le 2St 11Xx 2Ex 29Xx",
   "53Le 18Ex 4Le 2St 3Xx 10Nu 4Xx 1Ex 3Le 30Xx 48Le 20Ex 2Le 1Xx 1Le 8Xx 10Nu 166Xx 47Le 7Ex",
   "2Xx 9Ex 1Xx 2St 5Xx 15St 4Le 2Ex 34Xx 48Le 17Ex 2St 1Xx 1Le 11Xx 10Nu 38Xx 43Le 13Ex 1Le 7Xx",
   "10Nu 6Xx 20Nu 28Xx 27Le 2Xx 15Ex 4Xx 10Nu 2Xx 3St 1Xx 7Le 185Xx 44Le 15Ex 101Xx 32Up 32Lo",
   "10Nu 21Xx 8Le 2Xx 1Le 2Xx 8Le 1Xx 2Le 1Xx 24Le 6Ex 1Xx 2Ex 2Xx 4Ex 1Le 1Ex 1Le 2Ex 1St 1Xx",
   "1St 9Xx 10Nu 70Xx 8Le 2Xx 39Le 7Ex 2Xx 7Ex 1Le 1Xx 1Le 1Ex 27Xx 1Le 10Ex 40Le 7Ex 1Le 4Ex",
   "3Xx 2St 3Xx 1Ex 8Xx 1Le 11Ex 46Le 16Ex 1Xx 2St 1Le 18Xx 73Le 199Xx 33Le 15Xx 10Nu 6Xx 9Le",
   "1Xx 37Le 8Ex 1Xx 8Ex 1Le 2St 13Xx 10Nu 24Xx 30Le 2Xx 22Ex 1Xx 14Ex 73Xx 7Le 1Xx 2Le 1Xx 38Le",
   "6Ex 3Xx 1Ex 1Xx 2Ex 1Xx 7Ex 1Le 1Ex 8Xx 10Nu 6Xx 6Le 1Xx 2Le 1Xx 32Le 5Ex 1Xx 2Ex 1Xx 5Ex",
   "1Le 7Xx 10Nu 310Xx 19Le 4Ex 2St 7Xx 2Ex 1Le 1Ex 13Le 1Xx 34Le 7Ex 3Xx 5Ex 2St 11Xx 10Nu 1Ex",
   "85Xx 1Le 79Xx 922Le 102Xx 111Le 17Xx 196Le 2636Xx 97Le 15Xx 1072Le 16Fo 1Ex 6Le 15Ex 10Xx",
   "3995Le 5Xx 583Le 6841Xx 30Le 18Ex 10Nu 1734Xx 569Le 7Xx 31Le 1Xx 10Nu 4Xx 2St 79Le 1Xx 10Nu",
   "6Xx 30Le 2Xx 5Ex 1St 10Xx 48Le 7Ex 2St 7Xx 4Le 1St 11Xx 10Nu 9Xx 21Le 5Xx 19Le 432Xx 45Le",
   "1Xx 2St 10Nu 198Xx 32Up 32Lo 24Xx 1St 103Xx 75Le 4Xx 1Ex 1Le 55Ex 7Xx 4Ex 13Le 64Xx 2Le 1Xx",
   "1Le 1Ex 11Xx 2Ex 14Xx 6136Le 8Xx 1238Le 41Xx 10Le 8935Xx 4Le 1Xx 7Le 1Xx 2Le 1Xx 291Le 15Xx",
   "1Le 29Xx 3Le 2Xx 1Le 14Xx 4Le 8Xx 396Le 2308Xx 107Le 5Xx 13Le 3Xx 9Le 7Xx 10Le 3Xx 2Ex 1St",
   "4Fo 4172Xx 10Nu 518Xx 46Ex 2Xx 23Ex 542Xx 5Ex 3Xx 6Ex 8Fo 8Ex 2Xx 7Ex 30Xx 4Ex 148Xx 3Ex",
   "443Xx 26Up 26Lo 26Up 7Lo 1Xx 18Lo 26Up 26Lo 1Up 1Xx 2Up 2Xx 1Up 2Xx 2Up 2Xx 4Up 1Xx 8Up 4Lo",
   "1Xx 1Lo 1Xx 7Lo 1Xx 11Lo 26Up 26Lo 2Up 1Xx 4Up 2Xx 8Up 1Xx 7Up 1Xx 26Lo 2Up 1Xx 4Up 1Xx 5Up",
   "1Xx 1Up 3Xx 7Up 1Xx 26Lo 26Up 26Lo 26Up 26Lo 26Up 26Lo 26Up 26Lo 26Up 26Lo 26Up 28Lo 2Xx",
   "25Up 1Xx 25Lo 1Xx 6Lo 25Up 1Xx 25Lo 1Xx 6Lo 25Up 1Xx 25Lo 1Xx 6Lo 25Up 1Xx 25Lo 1Xx 6Lo 25Up",
   "1Xx 25Lo 1Xx 6Lo 1Up 1Lo 2Xx 50Nu 512Xx 55Ex 4Xx 50Ex 8Xx 1Ex 14Xx 1Ex 3Xx 1St 18Xx 5Ex 1Xx",
   "15Ex 1104Xx 10Lo 1Le 20Lo 6Xx 6Lo 213Xx 7Ex 1Xx 17Ex 2Xx 7Ex 1Xx 2Ex 1Xx 5Ex 5Xx 62Lo 33Xx",
   "1Ex 112Xx 45Le 3Xx 7Ex 7Le 2Xx 10Nu 4Xx 1Le 321Xx 30Le 1Ex 17Xx 44Le 4Ex 10Nu 470Xx 28Le 4Ex",
   "10Nu 214Xx 30Le 2Ex 1Le 10Nu 485Xx 7Le 1Xx 4Le 1Xx 2Le 1Xx 15Le 1Xx 197Le 11Xx 7Ex 41Xx 34Up",
   "34Lo 7Ex 1Le 4Xx 10Nu 1190Xx 4Le 1Xx 27Le 1Xx 2Le 1Xx 1Le 2Xx 1Le 1Xx 10Le 1Xx 4Le 1Xx 1Le",
   "1Xx 1Le 6Xx 1Le 4Xx 1Le 1Xx 1Le 1Xx 1Le 1Xx 3Le 1Xx 2Le 1Xx 1Le 2Xx 1Le 1Xx 1Le 1Xx 1Le 1Xx",
   "1Le 1Xx 1Le 1Xx 2Le 1Xx 1Le 2Xx 4Le 1Xx 7Le 1Xx 4Le 1Xx 4Le 1Xx 1Le 1Xx 10Le 1Xx 17Le 5Xx",
   "3Le 1Xx 5Le 1Xx 17Le 628Xx 26Up 6Xx 26Up 6Xx 26Up 1260Xx 3Cl 1399Xx 10Nu 1030Xx 42720Le 32Xx",
   "4154Le 6Xx 222Le 2Xx 5762Le 14Xx 7473Le 15Xx 622Le 2466Xx 542Le 1506Xx 4939Le 5Xx 4192Le",
   "711761Xx 1Fo 30Xx 96Ex 128Xx 240Ex 196112Xx"]

/-- The codes of those classes, each followed by its names. -/
def sentenceBreakNames : List String :=
  ["At at aterm Cl cl close Cr cr Ex ex extend Fo fo format Le le oletter Lf lf Lo lo lower Nu",
   "nu numeric Sc sc scontinue Se se sep Sp sp St st sterm Up up upper"]

end UriRouting.Unicode
