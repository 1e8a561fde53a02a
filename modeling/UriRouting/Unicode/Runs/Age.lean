/-!
# The ages of characters as runs

The version of Unicode that assigned each code point, up to version 16, written as runs in ascending
order from zero: the length of a run in decimal, followed by the version.  Beside it stand the versions
in the order of time, each followed by the names under which it is looked up.
-/

namespace UriRouting.Unicode

/-- The runs of the age. -/
def ageRuns : List String :=
  ["502V1.1 4V3.0 30V1.1 8V3.0 1V3.2 1V4.0 18V3.0 3V4.0 11V4.1 14V5.0 89V1.1 5V3.0 2V4.0 47V1.1",
   "1V3.0 10V1.1 5V3.0 17V4.0 70V1.1 9V3.0 1V3.2 8V4.0 5V4.1 3V4.0 2V1.1 1V3.0 13V3.2 4V5.1",
   "2V1.1 2V5.1 2None 1V1.1 3V5.0 1V1.1 1V7.0 4None 7V1.1 1None 1V1.1 1None 20V1.1 1None 44V1.1",
   "1V5.1 7V1.1 1V3.0 2V3.2 1V1.1 1V3.0 1V1.1 1V3.0 1V1.1 1V3.0 1V1.1 1V3.0 18V1.1 2V3.1 1V3.2",
   "5V4.0 4V4.1 1V3.0 12V1.1 1V3.0 66V1.1 1V3.0 12V1.1 1V3.0 41V1.1 1V5.1 2V3.0 2V3.2 4V3.0",
   "53V1.1 2V3.2 2V1.1 2V3.2 2V1.1 2V3.2 1V5.0 28V1.1 2V3.0 8V1.1 2V4.1 2V1.1 6V5.0 16V3.2 4V5.0",
   "16V5.1 2V5.2 2V6.0 8V7.0 1None 38V1.1 2None 7V1.1 1V11.0 39V1.1 1V11.0 1V1.1 1V3.0 2None",
   "2V7.0 1V6.1 1None 17V2.0 1V4.1 13V2.0 10V1.1 1V5.0 9V1.1 1V2.0 3V4.1 8None 27V1.1 4None",
   "1V11.0 5V1.1 11None 4V4.0 1V6.1 1V7.0 5V5.1 1V4.1 1V1.1 9V4.0 5V5.1 1V1.1 1V6.3 1V14.0 1V4.1",
   "1V1.1 1V6.0 26V1.1 5V5.1 19V1.1 3V3.0 3V4.0 6V4.1 1V6.0 14V1.1 2V3.2 72V1.1 2V3.0 5V1.1",
   "1V3.0 15V1.1 1V3.0 30V1.1 2V4.0 10V1.1 5V3.0 1V4.0 14V3.0 1None 30V3.0 3V4.0 27V3.0 2None",
   "3V4.0 30V4.1 18V5.1 49V3.0 1V3.2 14None 59V5.0 2None 3V11.0 46V5.2 2None 15V5.2 1None 28V6.0",
   "2None 1V6.0 1None 11V10.0 5None 31V14.0 1None 2V14.0 5None 1V16.0 8V14.0 1V6.1 1V7.0 11V6.1",
   "6V7.0 2V8.0 1V14.0 8V9.0 10V13.0 11V14.0 1V11.0 15V9.0 1V8.0 27V6.1 1V7.0 1V5.2 3V1.1 1V4.0",
   "53V1.1 2V6.0 18V1.1 1V5.2 1V6.0 5V1.1 1V5.2 2V6.0 25V1.1 2V5.1 5V6.0 1V7.0 2V5.2 2V5.0 1V4.1",
   "2V5.0 1V7.0 3V1.1 1None 8V1.1 2None 2V1.1 2None 22V1.1 1None 7V1.1 1None 1V1.1 3None 4V1.1",
   "2None 1V1.1 1V4.0 7V1.1 2None 2V1.1 2None 3V1.1 1V4.1 8None 1V1.1 4None 2V1.1 1None 5V1.1",
   "2None 21V1.1 1V5.2 2V10.0 1V11.0 2None 1V4.0 1V1.1 1V4.0 1None 6V1.1 4None 2V1.1 2None",
   "22V1.1 1None 7V1.1 1None 2V1.1 1None 2V1.1 1None 2V1.1 2None 1V1.1 1None 5V1.1 4None 2V1.1",
   "2None 3V1.1 3None 1V5.1 7None 4V1.1 1None 1V1.1 7None 15V1.1 1V5.1 1V11.0 10None 3V1.1 1None",
   "7V1.1 1V4.0 1V1.1 1None 3V1.1 1None 22V1.1 1None 7V1.1 1None 2V1.1 1None 5V1.1 2None 10V1.1",
   "1None 3V1.1 1None 3V1.1 2None 1V1.1 15None 1V1.1 3V4.0 2None 10V1.1 1V6.1 1V4.0 7None 1V8.0",
   "6V10.0 1None 3V1.1 1None 8V1.1 2None 2V1.1 2None 22V1.1 1None 7V1.1 1None 2V1.1 1None 1V4.0",
   "4V1.1 2None 8V1.1 1V5.1 2None 2V1.1 2None 3V1.1 7None 1V13.0 2V1.1 4None 2V1.1 1None 3V1.1",
   "2V5.1 2None 11V1.1 1V4.0 6V6.0 10None 2V1.1 1None 6V1.1 3None 3V1.1 1None 4V1.1 3None 2V1.1",
   "1None 1V1.1 1None 2V1.1 3None 2V1.1 3None 3V1.1 3None 8V1.1 1V4.1 3V1.1 4None 5V1.1 3None",
   "3V1.1 1None 4V1.1 2None 1V5.1 6None 1V1.1 14None 1V4.1 12V1.1 8V4.0 5None 1V7.0 3V1.1 1V11.0",
   "8V1.1 1None 3V1.1 1None 23V1.1 1None 10V1.1 1V7.0 5V1.1 2None 1V14.0 1V5.1 7V1.1 1None 3V1.1",
   "1None 4V1.1 7None 2V1.1 1None 2V5.1 1V8.0 2None 1V14.0 2None 2V1.1 2V5.1 2None 10V1.1 7None",
   "1V12.0 8V5.1 1V9.0 1V7.0 2V1.1 1V11.0 8V1.1 1None 3V1.1 1None 23V1.1 1None 10V1.1 1None",
   "5V1.1 2None 2V4.0 7V1.1 1None 3V1.1 1None 4V1.1 7None 2V1.1 6None 1V14.0 1V1.1 1None 2V1.1",
   "2V5.0 2None 10V1.1 1None 2V5.0 1V15.0 12None 1V10.0 1V7.0 2V1.1 1V13.0 8V1.1 1None 3V1.1",
   "1None 23V1.1 1V6.0 16V1.1 1V6.0 2V10.0 1V5.1 6V1.1 1V5.1 1None 3V1.1 1None 4V1.1 1V6.0 1V9.0",
   "4None 3V9.0 1V1.1 7V9.0 1V8.0 2V1.1 2V5.1 2None 10V1.1 6V5.1 3V9.0 7V5.1 1None 1V13.0 2V3.0",
   "1None 18V3.0 3None 24V3.0 1None 9V3.0 1None 1V3.0 2None 7V3.0 3None 1V3.0 4None 6V3.0 1None",
   "1V3.0 1None 8V3.0 6None 10V7.0 2None 3V3.0 12None 58V1.1 4None 29V1.1 37None 2V1.1 1None",
   "1V1.1 1None 1V12.0 2V1.1 1V12.0 1V1.1 1None 1V12.0 1V1.1 6V12.0 4V1.1 1V12.0 7V1.1 1V12.0",
   "3V1.1 1None 1V1.1 1None 1V1.1 2V12.0 2V1.1 1V12.0 13V1.1 1V12.0 3V1.1 2None 5V1.1 1None",
   "1V1.1 1None 6V1.1 1V15.0 1None 10V1.1 2None 2V1.1 2V6.1 32None 72V2.0 1None 33V2.0 1V3.0",
   "2V5.1 4None 27V2.0 4V6.0 6V2.0 1V3.0 1V2.0 1None 21V2.0 3V3.0 7V2.0 1V3.0 1V2.0 3V3.0 1None",
   "15V3.0 1None 1V5.1 1V3.0 2V4.1 3V5.1 4V5.2 2V6.0 37None 34V3.0 1V5.1 5V3.0 1V5.1 2V3.0 1V5.1",
   "7V3.0 3V5.1 4V3.0 6V5.1 26V3.0 64V5.1 4V5.2 2V5.1 38V1.1 1None 1V6.1 5None 1V6.1 2None",
   "39V1.1 2V3.2 2V4.1 1V1.1 1V4.1 3V6.1 90V1.1 5V5.2 68V1.1 5V5.2 82V1.1 6V5.2 7V3.0 1V4.1",
   "63V3.0 1V4.1 1V3.0 1None 4V3.0 2None 7V3.0 1None 1V3.0 1None 4V3.0 2None 39V3.0 1V4.1 1V3.0",
   "1None 4V3.0 2None 31V3.0 1V4.1 1V3.0 1None 4V3.0 2None 7V3.0 1None 1V3.0 1None 4V3.0 2None",
   "7V3.0 1V4.1 7V3.0 1None 23V3.0 1V4.1 31V3.0 1V4.1 1V3.0 1None 4V3.0 2None 7V3.0 1V4.1 39V3.0",
   "1V4.1 19V3.0 2None 2V6.0 2V4.1 28V3.0 3None 26V4.1 6None 85V3.0 1V8.0 2None 6V8.0 2None",
   "1V5.2 630V3.0 9V5.2 29V3.0 3None 81V3.0 8V7.0 7None 13V3.2 1V14.0 7V3.2 1V14.0 9None 1V14.0",
   "23V3.2 9None 20V3.2 12None 13V3.2 1None 3V3.2 1None 2V3.2 12None 93V3.0 1V4.0 2None 10V3.0",
   "6None 10V4.0 6None 15V3.0 1V14.0 10V3.0 6None 88V3.0 1V11.0 7None 42V3.0 1V5.1 5None 70V5.2",
   "10None 29V4.0 2V7.0 1None 12V4.0 4None 12V4.0 4None 1V4.0 3None 42V4.0 2None 5V4.0 11None",
   "42V4.1 2V5.2 4None 26V4.1 6None 10V4.1 1V5.2 3None 2V4.1 32V4.0 28V4.1 2None 2V4.1 63V5.2",
   "1None 29V5.2 2None 11V5.2 6None 10V5.2 6None 14V5.2 2None 15V7.0 2V13.0 14V14.0 49None",
   "76V5.0 1V14.0 1None 2V16.0 45V5.0 2V14.0 1V16.0 43V5.1 3V6.1 12V5.1 6V6.1 52V6.0 8None 4V6.0",
   "56V5.1 3None 15V5.1 3None 51V5.1 9V9.0 2V16.0 5None 43V11.0 2None 3V11.0 8V6.1 8None 35V5.2",
   "4V6.1 1V10.0 2V7.0 1V12.0 5None 108V4.0 88V4.1 7V5.0 28V5.1 15V7.0 4V10.0 1V14.0 1V9.0 1V6.0",
   "1V5.2 2V5.0 155V1.1 1V2.0 4V5.1 90V1.1 6V5.1 22V1.1 2None 6V1.1 2None 38V1.1 2None 6V1.1",
   "2None 8V1.1 1None 1V1.1 1None 1V1.1 1None 1V1.1 1None 31V1.1 2None 53V1.1 1None 15V1.1 1None",
   "14V1.1 2None 6V1.1 1None 19V1.1 2None 3V1.1 1None 9V1.1 1None 47V1.1 1V3.0 23V1.1 1V3.2",
   "6V3.0 5V3.2 2V4.0 2V4.1 1V3.2 7V4.1 5V3.2 1V5.1 1None 4V6.3 7V1.1 1V3.2 2None 27V1.1 1None",
   "5V4.1 8V6.0 3None 11V1.1 1V2.0 1V2.1 3V3.0 2V3.2 4V4.1 3V5.2 1V6.0 1V6.2 3V7.0 1V8.0 1V10.0",
   "1V14.0 15None 18V1.1 2V3.0 7V3.2 1V4.1 4V5.0 1V5.1 15None 57V1.1 2V3.0 1V4.0 1V4.1 15V3.2",
   "1V4.1 2V5.0 1V5.1 3V5.2 48V1.1 1V3.0 1V5.0 4V5.1 1V5.2 2V8.0 4None 91V1.1 9V3.0 12V3.2",
   "242V1.1 14V3.2 1V1.1 1V3.0 121V1.1 1V3.0 1V3.2 30V3.0 52V3.2 2V4.0 11V4.1 12V5.0 1V5.2",
   "11V6.0 7V7.0 4V9.0 1V10.0 37V1.1 2V3.0 3V16.0 22None 11V1.1 21None 139V1.1 20V3.2 1V4.0",
   "150V1.1 10V3.2 80V1.1 8V3.0 8V3.2 20V1.1 2V4.0 2V3.2 1V4.1 1V3.0 86V1.1 2V3.0 12V3.2 2V4.1",
   "10V3.2 8V4.0 11V4.1 1V5.1 2V5.2 2V4.0 16V4.1 1V5.0 10V5.1 3V5.2 4V5.1 10V5.2 1V6.0 19V5.2",
   "1V6.0 1V5.2 4V6.0 24V5.2 1V7.0 4V1.1 1V6.0 4V1.1 2V6.0 28V1.1 1V6.0 35V1.1 1V6.0 1V1.1 1V6.0",
   "4V1.1 3V6.0 1V1.1 1V5.2 7V1.1 2V6.0 7V1.1 14V3.2 31V1.1 3V6.0 24V1.1 1V6.0 14V1.1 1V6.0",
   "7V4.1 4V5.0 1V6.1 1V5.1 1V6.1 2V6.0 28V3.2 4V5.1 16V3.2 256V3.0 512V3.2 14V4.0 6V4.1 7V5.0",
   "5V5.1 4V5.0 41V5.1 3V7.0 5V5.1 5V5.2 26V7.0 2None 32V7.0 1None 1V13.0 34V7.0 3V11.0 12V7.0",
   "1V12.0 8V7.0 1V10.0 25V11.0 4V8.0 15V11.0 1V12.0 47V4.1 1V14.0 47V4.1 1V14.0 13V5.0 3V5.1",
   "1V5.2 3V5.1 4V5.0 6V5.1 2V5.2 107V4.1 7V5.2 2V6.1 5None 45V4.1 1None 1V6.1 5None 1V6.1 2None",
   "54V4.1 2V6.1 7None 1V4.1 1V6.0 14None 1V6.0 23V4.1 9None 7V4.1 1None 7V4.1 1None 7V4.1 1None",
   "7V4.1 1None 7V4.1 1None 7V4.1 1None 7V4.1 1None 7V4.1 1None 32V5.1 24V4.1 4V5.1 2V4.1 19V5.1",
   "1V5.2 10V6.1 7V7.0 2V9.0 5V10.0 5V11.0 1V12.0 3V13.0 11V14.0 34None 26V3.0 1None 89V3.0",
   "12None 214V3.0 26None 12V3.0 4V15.1 56V1.1 3V3.0 3V3.2 1V3.0 1V1.1 1None 84V1.1 2V3.2 2None",
   "6V1.1 2V3.2 94V1.1 1V3.2 5None 40V1.1 1V5.1 1V10.0 1V11.0 1None 94V1.1 1None 16V1.1 24V3.0",
   "3V6.0 5V13.0 16V4.1 20V5.1 2V16.0 9None 1V15.1 16V3.2 29V1.1 2V4.0 1None 36V1.1 12V5.2 1V4.0",
   "15V3.2 28V1.1 2V4.0 1V4.1 50V1.1 15V3.2 12V1.1 4V4.0 47V1.1 1V12.1 119V1.1 4V4.0 99V1.1",
   "2V4.0 31V1.1 1V4.0 6582V3.0 10V13.0 64V4.0 20902V1.1 22V4.1 8V5.1 8V5.2 1V6.1 9V8.0 21V10.0",
   "5V11.0 13V13.0 3V14.0 1165V3.0 3None 18V3.0 2V3.2 16V3.0 1V3.2 12V3.0 1V3.2 3V3.0 1V3.2",
   "1V3.0 9None 48V5.2 300V5.1 20None 32V5.1 2V6.0 18V5.1 8V6.1 28V5.1 6V7.0 1V8.0 1V6.1 88V5.2",
   "8None 23V4.1 4V5.0 5V5.1 2V5.0 107V5.1 2V6.0 1V8.0 2V6.0 2V6.1 12V7.0 10V6.0 1V6.1 3V7.0",
   "1V9.0 1V11.0 2V7.0 6V8.0 2V11.0 6V12.0 2V14.0 5V12.0 4V13.0 3V16.0 2None 2V14.0 1None 1V14.0",
   "1None 5V14.0 3V16.0 21None 3V14.0 2V13.0 1V7.0 2V6.1 1V6.0 5V5.1 44V4.1 1V13.0 3None 10V5.2",
   "6None 56V5.0 8None 69V5.1 1V9.0 8None 12V5.1 6None 28V5.2 2V8.0 2V11.0 84V5.1 11None 1V5.1",
   "29V5.2 3None 78V5.2 1None 11V5.2 4None 2V5.2 31V7.0 1None 55V5.1 9None 14V5.1 2None 10V5.1",
   "2None 4V5.1 28V5.2 4V7.0 67V5.2 24None 5V5.2 23V6.1 10None 6V6.0 2None 6V6.0 2None 6V6.0",
   "9None 7V6.0 1None 7V6.0 1None 48V7.0 4V8.0 2V7.0 2V12.0 4V13.0 4None 80V8.0 46V5.2 2None",
   "10V5.2 6None 11172V2.0 12None 23V5.2 4None 49V5.2 2052None 6702V1.1 2V6.1 59V3.2 3V5.2 2None",
   "106V4.1 38None 7V1.1 12None 5V1.1 5None 1V3.0 25V1.1 1None 5V1.1 1None 1V1.1 1None 2V1.1",
   "1None 2V1.1 1None 108V1.1 16V6.0 1V14.0 16None 365V1.1 16V14.0 64V1.1 2None 54V1.1 7None",
   "1V14.0 32V3.1 12V1.1 1V3.2 1V4.0 2V14.0 16V3.2 10V4.1 6None 4V1.1 3V5.1 7V7.0 2V8.0 21V1.1",
   "2V3.2 2V4.0 10V1.1 1None 19V1.1 1None 4V1.1 4None 3V1.1 1V3.2 1V1.1 1None 135V1.1 2None",
   "1V1.1 1None 94V1.1 2V3.2 94V1.1 3None 6V1.1 2None 6V1.1 2None 6V1.1 2None 3V1.1 3None 7V1.1",
   "1None 7V1.1 10None 3V3.0 1V2.1 3V1.1 12V4.0 1None 26V4.0 1None 19V4.0 1None 2V4.0 1None",
   "15V4.0 2None 14V4.0 34None 123V4.0 5None 3V4.0 4None 45V4.0 3None 9V4.0 75V4.1 2V7.0 2V9.0",
   "1None 12V5.1 1V13.0 3None 1V7.0 47None 46V5.1 130None 29V5.1 3None 49V5.1 15None 28V7.0",
   "4None 31V3.1 1V7.0 4V3.1 9None 3V10.0 27V3.1 5None 43V7.0 5None 30V4.0 1None 1V4.0 36V4.1",
   "4None 14V4.1 42None 38V3.1 2V4.0 38V3.1 80V4.0 2None 10V4.0 6None 36V9.0 4None 36V9.0 4None",
   "40V7.0 8None 52V7.0 11None 1V7.0 11V14.0 1None 15V14.0 1None 7V14.0 1None 2V14.0 1None",
   "11V14.0 1None 15V14.0 1None 7V14.0 1None 2V14.0 3None 52V16.0 12None 311V7.0 9None 22V7.0",
   "10None 8V7.0 24None 6V14.0 1None 42V14.0 1None 9V14.0 69None 6V4.0 2None 1V4.0 1None 44V4.0",
   "1None 2V4.0 3None 1V4.0 2None 1V4.0 22V5.2 1None 9V5.2 63V7.0 8None 9V7.0 48None 19V8.0",
   "1None 2V8.0 5None 5V8.0 26V5.0 2V5.2 3None 1V5.0 26V5.1 5None 1V5.1 64None 56V6.1 4None",
   "2V8.0 2V6.1 16V8.0 2None 46V8.0 4V4.1 1None 2V4.1 5None 8V4.1 1None 3V4.1 1None 27V4.1",
   "2V11.0 2None 3V4.1 4None 9V4.1 1V11.0 7None 9V4.1 7None 32V5.2 32V7.0 32None 39V7.0 4None",
   "12V7.0 9None 54V5.2 3None 29V5.2 2None 27V5.2 5None 8V5.2 18V7.0 7None 4V7.0 12None 7V7.0",
   "80None 73V5.2 55None 51V8.0 13None 51V8.0 7None 6V8.0 40V11.0 8None 10V11.0 6None 38V16.0",
   "3None 29V16.0 8None 2V16.0 208None 31V5.2 1None 42V13.0 1None 3V13.0 2None 2V13.0 16None",
   "3V16.0 55None 1V16.0 3V15.0 40V11.0 8None 42V11.0 22None 26V14.0 38None 28V13.0 20None",
   "23V12.0 9None 78V6.0 4None 30V6.0 6V14.0 9None 1V7.0 66V5.2 1V14.0 10None 1V11.0 2None",
   "25V6.1 7None 10V6.1 6None 53V6.1 1None 14V6.1 3V11.0 1V13.0 8None 39V7.0 9None 73V6.1 4V8.0",
   "1V7.0 2V13.0 10V6.1 1V7.0 5V8.0 1None 20V7.0 11None 18V7.0 1None 43V7.0 1V9.0 3V15.0 62None",
   "7V8.0 1None 1V8.0 1None 4V8.0 1None 15V8.0 1None 11V8.0 6None 59V7.0 5None 10V7.0 6None",
   "1V8.0 3V7.0 1None 8V7.0 2None 2V7.0 2None 22V7.0 1None 7V7.0 1None 2V7.0 1None 5V7.0 1None",
   "1V11.0 9V7.0 2None 2V7.0 2None 3V7.0 2None 1V8.0 6None 1V7.0 5None 7V7.0 2None 7V7.0 3None",
   "5V7.0 11None 10V16.0 1None 1V16.0 2None 1V16.0 1None 38V16.0 1None 10V16.0 1None 1V16.0",
   "2None 1V16.0 1None 4V16.0 1None 10V16.0 1None 2V16.0 8None 2V16.0 29None 90V9.0 1V13.0 1V9.0",
   "1None 1V9.0 1V11.0 1V12.0 2V13.0 30None 72V7.0 8None 10V7.0 166None 54V7.0 2None 18V7.0",
   "20V8.0 34None 69V7.0 11None 10V7.0 6None 13V9.0 19None 56V6.1 1V12.0 1V14.0 6None 10V6.1",
   "6None 20V16.0 28None 26V8.0 1V11.0 2None 15V8.0 4None 16V8.0 7V14.0 185None 60V11.0 100None",
   "83V7.0 12None 1V7.0 7V13.0 2None 1V13.0 2None 8V13.0 1None 2V13.0 1None 30V13.0 1None 2V13.0",
   "2None 12V13.0 9None 10V13.0 70None 8V12.0 2None 46V12.0 2None 11V12.0 27None 72V10.0 8None",
   "52V10.0 2V12.0 23V10.0 1V11.0 5V10.0 13None 16V14.0 57V7.0 7None 10V15.0 182None 34V16.0",
   "14None 10V16.0 6None 9V9.0 1None 45V9.0 1None 14V9.0 10None 29V9.0 3None 32V9.0 2None 22V9.0",
   "1None 14V9.0 73None 7V10.0 1None 2V10.0 1None 44V10.0 3None 1V10.0 1None 2V10.0 1None 9V10.0",
   "8None 10V10.0 6None 6V11.0 1None 2V11.0 1None 37V11.0 1None 2V11.0 1None 6V11.0 7None",
   "10V11.0 310None 25V11.0 7None 17V15.0 1None 41V15.0 3None 28V15.0 1V16.0 85None 1V13.0",
   "15None 50V12.0 13None 1V12.0 879V5.0 42V7.0 1V8.0 102None 99V5.0 12V7.0 1None 4V5.0 1V7.0",
   "11None 196V8.0 2636None 99V14.0 13None 1071V5.2 1V15.0 9V12.0 29V15.0 10None 3995V16.0 5None",
   "583V8.0 6841None 58V16.0 1734None 569V6.0 7None 31V7.0 1None 10V7.0 4None 2V7.0 79V14.0",
   "1None 10V14.0 6None 30V7.0 2None 6V7.0 10None 70V7.0 10None 10V7.0 1None 7V7.0 1None 21V7.0",
   "5None 19V7.0 432None 58V16.0 198None 91V11.0 101None 69V6.1 6V12.0 4None 1V12.0 47V6.1",
   "9V12.0 7None 17V6.1 64None 1V9.0 1V10.0 2V12.0 1V13.0 11None 2V13.0 14None 6125V9.0 5V11.0",
   "6V12.0 8None 755V9.0 483V13.0 41None 1V16.0 9V13.0 8935None 4V14.0 1None 7V14.0 1None 2V14.0",
   "1None 2V6.0 285V10.0 4V14.0 15None 1V15.0 29None 3V12.0 2None 1V15.0 14None 4V12.0 8None",
   "396V10.0 2308None 107V7.0 5None 13V7.0 3None 9V7.0 7None 10V7.0 2None 8V7.0 3932None",
   "250V16.0 6None 436V16.0 76None 46V14.0 2None 23V14.0 9None 116V14.0 60None 246V3.1 10None",
   "39V3.1 2None 1V5.1 180V3.1 11V8.0 2V14.0 21None 70V4.1 122None 20V15.0 12None 20V11.0 12None",
   "87V4.0 9None 18V5.0 7V11.0 135None 85V3.1 1None 71V3.1 1None 2V3.1 2None 1V3.1 2None 2V3.1",
   "2None 4V3.1 1None 12V3.1 1None 1V3.1 1None 4V3.1 1V4.0 2V3.1 1None 65V3.1 1None 4V3.1 2None",
   "8V3.1 1None 7V3.1 1None 28V3.1 1None 4V3.1 1None 5V3.1 1None 1V3.1 3None 7V3.1 1None 338V3.1",
   "2V4.1 2None 290V3.1 2V5.0 2None 50V3.1 652V8.0 15None 5V8.0 1None 15V8.0 1104None 31V14.0",
   "6None 6V15.0 213None 7V9.0 1None 17V9.0 2None 7V9.0 1None 2V9.0 1None 5V9.0 5None 62V15.0",
   "33None 1V15.0 112None 45V12.0 3None 14V12.0 2None 10V12.0 4None 2V12.0 320None 31V14.0",
   "17None 58V12.0 5None 1V12.0 464None 42V15.0 214None 43V16.0 4None 1V16.0 480None 7V14.0",
   "1None 4V14.0 1None 2V14.0 1None 15V14.0 1None 197V7.0 2None 16V7.0 41None 75V9.0 1V12.0",
   "4None 10V9.0 4None 2V9.0 785None 68V11.0 76None 61V12.0 194None 4V6.1 1None 27V6.1 1None",
   "2V6.1 1None 1V6.1 2None 1V6.1 1None 10V6.1 1None 4V6.1 1None 1V6.1 1None 1V6.1 6None 1V6.1",
   "4None 1V6.1 1None 1V6.1 1None 1V6.1 1None 3V6.1 1None 2V6.1 1None 1V6.1 2None 1V6.1 1None",
   "1V6.1 1None 1V6.1 1None 1V6.1 1None 1V6.1 1None 2V6.1 1None 1V6.1 2None 4V6.1 1None 7V6.1",
   "1None 4V6.1 1None 4V6.1 1None 1V6.1 1None 10V6.1 1None 17V6.1 5None 3V6.1 1None 5V6.1 1None",
   "17V6.1 52None 2V6.1 270None 44V5.1 4None 100V5.1 12None 15V6.0 2None 14V6.0 1V7.0 1None",
   "15V6.0 1None 15V6.0 22V7.0 10None 11V5.2 2V7.0 3V13.0 31V5.2 1V11.0 1V6.0 1V5.2 11V6.0 1V5.2",
   "1V6.0 1V5.2 2V6.0 1V5.2 3V6.0 1V5.2 3V6.0 5V5.2 8V6.0 1V5.2 7V6.0 1V5.2 10V6.0 2V6.1 1V12.0",
   "3V13.0 9V6.0 1V5.2 1V6.0 2V5.2 2V6.0 1V5.2 10V6.0 4V5.2 2V6.0 1V5.2 10V6.0 18V9.0 1V13.0",
   "56None 26V6.0 1V5.2 2V6.0 13None 34V5.2 9V6.0 1V9.0 4None 9V5.2 7None 2V6.0 14None 6V10.0",
   "154None 33V6.0 12V7.0 3V8.0 6V6.0 1V7.0 70V6.0 1V7.0 2V8.0 20V6.0 12V7.0 37V6.0 1V7.0 5V6.0",
   "4V7.0 5V8.0 12V7.0 17V6.0 7V7.0 8V8.0 63V6.0 1V7.0 1V6.0 1V7.0 182V6.0 1V7.0 4V6.0 2V7.0",
   "1V8.0 62V6.0 2V7.0 4V6.1 7V7.0 5V8.0 24V6.0 18V7.0 1V9.0 41V7.0 1V9.0 86V7.0 5V6.0 1V6.1",
   "16V6.0 1V6.1 3V6.0 1V6.1 1V6.0 1V6.1 1V6.0 1V6.1 1V6.0 1V6.1 3V6.0 1V6.1 6V6.0 2V6.1 4V6.0",
   "1V6.1 1V6.0 2V6.1 4V6.0 1V6.1 12V6.0 2V7.0 2V8.0 11V6.0 48V7.0 70V6.0 10V7.0 1V8.0 2V9.0",
   "2V10.0 1V12.0 2V13.0 4None 1V15.0 3V14.0 13V7.0 3None 4V7.0 3V9.0 2V10.0 1V11.0 1V12.0",
   "2V13.0 3None 116V6.0 3V15.0 4None 5V15.0 85V7.0 4V11.0 1V15.0 6None 12V12.0 4None 1V14.0",
   "15None 12V7.0 4None 56V7.0 8None 10V7.0 6None 40V7.0 8None 30V7.0 2None 2V13.0 10V16.0 4None",
   "2V16.0 62None 12V10.0 1V13.0 3V12.0 9V8.0 6V9.0 1V10.0 8V9.0 8V10.0 1V9.0 2V10.0 12V9.0",
   "1V12.0 12V9.0 1V10.0 3V11.0 15V9.0 13V10.0 5V11.0 1V12.0 1V13.0 4V11.0 2V13.0 1V14.0 1V11.0",
   "1V12.0 4V11.0 5V8.0 13V9.0 6V10.0 11V11.0 2V13.0 6V12.0 3V13.0 2V12.0 10V11.0 6V12.0 1V8.0",
   "2V11.0 8V12.0 1V13.0 1V14.0 3V12.0 23V10.0 25V11.0 84V12.0 12None 14V11.0 2None 4V12.0",
   "1V13.0 3V15.0 3V12.0 2V14.0 3None 3V12.0 4V13.0 2V15.0 1V16.0 5None 1V16.0 6V12.0 19V13.0",
   "4V14.0 3V15.0 7V13.0 4V14.0 3V15.0 1V16.0 1V15.0 3V13.0 3V14.0 1V16.0 7None 2V15.0 7V13.0",
   "3V14.0 2V15.0 1V16.0 2None 1V16.0 8V14.0 1V15.0 1V16.0 6None 7V14.0 2V15.0 7None 147V13.0",
   "1None 55V13.0 37V16.0 10V13.0 1028None 2V2.0 42711V3.1 7V13.0 2V14.0 32None 4149V5.2 4V14.0",
   "1V15.0 6None 222V6.0 2None 5762V8.0 14None 7473V10.0 15None 622V15.1 2466None 542V3.1",
   "1504None 2V2.0 4939V13.0 5None 4192V15.0 56398None 2V2.0 65534None 2V2.0 65534None 2V2.0",
   "65534None 2V2.0 65534None 2V2.0 65534None 2V2.0 65534None 2V2.0 65534None 2V2.0 65534None",
   "2V2.0 65534None 2V2.0 65534None 2V2.0 1None 1V3.1 30None 96V3.1 128None 240V4.0 65038None",
   "131074V2.0"]

/-- The versions in the order of time, each followed by its names. -/
def ageNames : List String :=
  ["V1.1 1.1 v11 V2.0 2.0 v20 V2.1 2.1 v21 V3.0 3.0 v30 V3.1 3.1 v31 V3.2 3.2 v32 V4.0 4.0 v40",
   "V4.1 4.1 v41 V5.0 5.0 v50 V5.1 5.1 v51 V5.2 5.2 v52 V6.0 6.0 v60 V6.1 6.1 v61 V6.2 6.2 v62",
   "V6.3 6.3 v63 V7.0 7.0 v70 V8.0 8.0 v80 V9.0 9.0 v90 V10.0 10.0 v100 V11.0 11.0 v110 V12.0",
   "12.0 v120 V12.1 12.1 v121 V13.0 13.0 v130 V14.0 14.0 v140 V15.0 15.0 v150 V15.1 15.1 v151",
   "V16.0 16.0 v160"]

end UriRouting.Unicode
