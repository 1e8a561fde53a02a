/-!
# Simple case folding as runs

Two characters are the same up to case when the simple case folding of Unicode 16 takes them to the same
character.  The table lists, for each character that is the least of its kind, where the others of its
kind stand.  A run is four numbers in decimal: the first of the least characters, their number, the step
from one to the next, and the distance from each to another character of its kind.
-/

namespace UriRouting.Unicode

/-- The runs of simple case folding. -/
def caseRuns : List String :=
  ["65 26 1 32 75 1 1 8415 83 1 1 300 181 1 1 743 181 1 1 775 192 23 1 32 197 1 1 8294 216 7 1",
   "32 223 1 1 7615 255 1 1 121 256 24 2 1 306 3 2 1 313 8 2 1 330 23 2 1 377 3 2 1 384 1 1 195",
   "385 1 1 210 386 2 2 1 390 1 1 206 391 2 4 1 393 2 1 205 398 1 1 79 399 1 1 202 400 1 1 203",
   "401 1 1 1 403 1 1 205 404 1 1 207 405 1 1 97 406 1 1 211 407 1 1 209 408 2 8 1 410 1 1 163",
   "411 1 1 42561 412 1 1 211 413 1 1 213 414 1 1 130 415 1 1 214 418 2 2 1 422 2 3 218 423 2 8",
   "1 428 1 1 1 430 1 1 218 433 2 1 217 435 2 2 1 439 1 1 219 440 2 4 1 447 1 1 56 452 4 3 1 452",
   "3 3 2 463 7 2 1 478 9 2 1 497 2 3 1 497 1 1 2 504 20 2 1 546 9 2 1 570 1 1 10795 571 1 1 1",
   "574 1 1 10792 575 2 1 10815 577 1 1 1 580 1 1 69 581 1 1 71 582 5 2 1 592 1 1 10783 593 1 1",
   "10780 594 1 1 10782 604 1 1 42319 609 1 1 42315 612 1 1 42343 613 1 1 42280 614 2 4 42308",
   "619 1 1 10743 620 1 1 42305 625 1 1 10749 637 1 1 10727 642 1 1 42307 647 1 1 42282 669 1 1",
   "42261 670 1 1 42258 837 1 1 84 837 1 1 116 837 1 1 7289 880 2 2 1 886 1 1 1 891 3 1 130 895",
   "1 1 116 902 1 1 38 904 3 1 37 908 1 1 64 910 2 1 63 912 1 1 7235 913 9 3 32 914 9 3 32 914 1",
   "1 62 915 2 3 32 917 1 1 96 920 1 1 57 920 1 1 92 922 1 1 86 927 1 1 32 928 1 1 54 929 1 1 80",
   "931 1 1 31 933 3 3 32 934 1 1 47 937 1 1 7549 944 1 1 7219 975 1 1 8 984 12 2 1 1010 1 1 7",
   "1015 2 3 1 1024 16 1 80 1040 32 1 32 1042 1 1 6254 1044 1 1 6253 1054 1 1 6244 1057 2 1 6242",
   "1058 1 1 6243 1066 1 1 6236 1120 17 2 1 1122 1 1 6181 1162 27 2 1 1216 1 1 15 1217 7 2 1",
   "1232 48 2 1 1329 38 1 48 4256 38 1 7264 4295 1 1 7264 4301 1 1 7264 4304 43 1 3008 4349 3 1",
   "3008 5024 80 1 38864 5104 6 1 8 7304 1 1 35266 7304 1 1 35267 7305 1 1 1 7545 1 1 35332 7549",
   "1 1 3814 7566 1 1 35384 7680 75 2 1 7776 1 1 59 7840 48 2 1 7936 8 1 8 7952 6 1 8 7968 8 1 8",
   "7984 8 1 8 8000 6 1 8 8017 4 2 8 8032 8 1 8 8048 2 1 74 8050 4 1 86 8054 2 1 100 8056 2 1",
   "128 8058 2 1 112 8060 2 1 126 8064 8 1 8 8080 8 1 8 8096 8 1 8 8112 2 1 8 8115 1 1 9 8131 1",
   "1 9 8144 2 1 8 8160 2 1 8 8165 1 1 7 8179 1 1 9 8498 1 1 28 8544 16 1 16 8579 1 1 1 9398 26",
   "1 26 11264 48 1 48 11360 1 1 1 11367 3 2 1 11378 2 3 1 11392 50 2 1 11499 2 2 1 11506 1 1 1",
   "42560 12 4 1 42562 2 4 1 42574 8 4 1 42624 14 2 1 42786 20 4 1 42788 10 8 1 42792 1 1 1",
   "42808 7 8 1 42873 2 2 1 42878 5 2 1 42891 1 1 1 42896 4 8 1 42898 6 4 1 42900 1 1 48 42908 2",
   "8 1 42931 1 1 928 42932 8 2 1 42951 2 2 1 42956 2 4 1 42966 3 2 1 42997 1 1 1 64261 1 1 1",
   "65313 26 1 32 66560 40 1 40 66736 36 1 40 66928 19 2 39 66929 10 4 39 66931 2 4 39 66943 3 4",
   "39 66959 1 1 39 68736 51 1 64 68944 22 1 32 71840 32 1 32 93760 32 1 32 125184 34 1 34"]

end UriRouting.Unicode
