import CleanupCourier.Text.CodeTable

/-!
The canonical decompositions of characters, the pairs of characters that combine into one, and the
combining classes that order marks. Hangul syllables are not listed; they follow a rule.
-/
namespace CleanupCourier

namespace Domain

/-- Characters and what they decompose into, all the way down. -/
def decompositions : CodeTable := CodeTable.ofSteps
  "192 2 65 768 1 2 65 769 1 2 65 770 1 2 65 771 1 2 65 776 1 2 65 778 2 2 67 807 1 2 69 768 1 2
  69 769 1 2 69 770 1 2 69 776 1 2 73 768 1 2 73 769 1 2 73 770 1 2 73 776 2 2 78 771 1 2 79
  768 1 2 79 769 1 2 79 770 1 2 79 771 1 2 79 776 3 2 85 768 1 2 85 769 1 2 85 770 1 2 85 776 1
  2 89 769 3 2 97 768 1 2 97 769 1 2 97 770 1 2 97 771 1 2 97 776 1 2 97 778 2 2 99 807 1 2 101
  768 1 2 101 769 1 2 101 770 1 2 101 776 1 2 105 768 1 2 105 769 1 2 105 770 1 2 105 776 2 2
  110 771 1 2 111 768 1 2 111 769 1 2 111 770 1 2 111 771 1 2 111 776 3 2 117 768 1 2 117 769 1
  2 117 770 1 2 117 776 1 2 121 769 2 2 121 776 1 2 65 772 1 2 97 772 1 2 65 774 1 2 97 774 1 2
  65 808 1 2 97 808 1 2 67 769 1 2 99 769 1 2 67 770 1 2 99 770 1 2 67 775 1 2 99 775 1 2 67
  780 1 2 99 780 1 2 68 780 1 2 100 780 3 2 69 772 1 2 101 772 1 2 69 774 1 2 101 774 1 2 69
  775 1 2 101 775 1 2 69 808 1 2 101 808 1 2 69 780 1 2 101 780 1 2 71 770 1 2 103 770 1 2 71
  774 1 2 103 774 1 2 71 775 1 2 103 775 1 2 71 807 1 2 103 807 1 2 72 770 1 2 104 770 3 2 73
  771 1 2 105 771 1 2 73 772 1 2 105 772 1 2 73 774 1 2 105 774 1 2 73 808 1 2 105 808 1 2 73
  775 4 2 74 770 1 2 106 770 1 2 75 807 1 2 107 807 2 2 76 769 1 2 108 769 1 2 76 807 1 2 108
  807 1 2 76 780 1 2 108 780 5 2 78 769 1 2 110 769 1 2 78 807 1 2 110 807 1 2 78 780 1 2 110
  780 4 2 79 772 1 2 111 772 1 2 79 774 1 2 111 774 1 2 79 779 1 2 111 779 3 2 82 769 1 2 114
  769 1 2 82 807 1 2 114 807 1 2 82 780 1 2 114 780 1 2 83 769 1 2 115 769 1 2 83 770 1 2 115
  770 1 2 83 807 1 2 115 807 1 2 83 780 1 2 115 780 1 2 84 807 1 2 116 807 1 2 84 780 1 2 116
  780 3 2 85 771 1 2 117 771 1 2 85 772 1 2 117 772 1 2 85 774 1 2 117 774 1 2 85 778 1 2 117
  778 1 2 85 779 1 2 117 779 1 2 85 808 1 2 117 808 1 2 87 770 1 2 119 770 1 2 89 770 1 2 121
  770 1 2 89 776 1 2 90 769 1 2 122 769 1 2 90 775 1 2 122 775 1 2 90 780 1 2 122 780 34 2 79
  795 1 2 111 795 14 2 85 795 1 2 117 795 29 2 65 780 1 2 97 780 1 2 73 780 1 2 105 780 1 2 79
  780 1 2 111 780 1 2 85 780 1 2 117 780 1 3 85 776 772 1 3 117 776 772 1 3 85 776 769 1 3 117
  776 769 1 3 85 776 780 1 3 117 776 780 1 3 85 776 768 1 3 117 776 768 2 3 65 776 772 1 3 97
  776 772 1 3 65 775 772 1 3 97 775 772 1 2 198 772 1 2 230 772 3 2 71 780 1 2 103 780 1 2 75
  780 1 2 107 780 1 2 79 808 1 2 111 808 1 3 79 808 772 1 3 111 808 772 1 2 439 780 1 2 658 780
  1 2 106 780 4 2 71 769 1 2 103 769 3 2 78 768 1 2 110 768 1 3 65 778 769 1 3 97 778 769 1 2
  198 769 1 2 230 769 1 2 216 769 1 2 248 769 1 2 65 783 1 2 97 783 1 2 65 785 1 2 97 785 1 2
  69 783 1 2 101 783 1 2 69 785 1 2 101 785 1 2 73 783 1 2 105 783 1 2 73 785 1 2 105 785 1 2
  79 783 1 2 111 783 1 2 79 785 1 2 111 785 1 2 82 783 1 2 114 783 1 2 82 785 1 2 114 785 1 2
  85 783 1 2 117 783 1 2 85 785 1 2 117 785 1 2 83 806 1 2 115 806 1 2 84 806 1 2 116 806 3 2
  72 780 1 2 104 780 7 2 65 775 1 2 97 775 1 2 69 807 1 2 101 807 1 3 79 776 772 1 3 111 776
  772 1 3 79 771 772 1 3 111 771 772 1 2 79 775 1 2 111 775 1 3 79 775 772 1 3 111 775 772 1 2
  89 772 1 2 121 772 269 1 768 1 1 769 2 1 787 1 2 776 769 48 1 697 10 1 59 7 2 168 769 1 2 913
  769 1 1 183 1 2 917 769 1 2 919 769 1 2 921 769 2 2 927 769 2 2 933 769 1 2 937 769 1 3 953
  776 769 26 2 921 776 1 2 933 776 1 2 945 769 1 2 949 769 1 2 951 769 1 2 953 769 1 3 965 776
  769 26 2 953 776 1 2 965 776 1 2 959 769 1 2 965 769 1 2 969 769 5 2 978 769 1 2 978 776 44 2
  1045 768 1 2 1045 776 2 2 1043 769 4 2 1030 776 5 2 1050 769 1 2 1048 768 1 2 1059 774 11 2
  1048 774 32 2 1080 774 23 2 1077 768 1 2 1077 776 2 2 1075 769 4 2 1110 776 5 2 1082 769 1 2
  1080 768 1 2 1091 774 24 2 1140 783 1 2 1141 783 74 2 1046 774 1 2 1078 774 14 2 1040 774 1 2
  1072 774 1 2 1040 776 1 2 1072 776 3 2 1045 774 1 2 1077 774 3 2 1240 776 1 2 1241 776 1 2
  1046 776 1 2 1078 776 1 2 1047 776 1 2 1079 776 3 2 1048 772 1 2 1080 772 1 2 1048 776 1 2
  1080 776 1 2 1054 776 1 2 1086 776 3 2 1256 776 1 2 1257 776 1 2 1069 776 1 2 1101 776 1 2
  1059 772 1 2 1091 772 1 2 1059 776 1 2 1091 776 1 2 1059 779 1 2 1091 779 1 2 1063 776 1 2
  1095 776 3 2 1067 776 1 2 1099 776 297 2 1575 1619 1 2 1575 1620 1 2 1608 1620 1 2 1575 1621
  1 2 1610 1620 154 2 1749 1620 2 2 1729 1620 17 2 1746 1620 598 2 2344 2364 8 2 2352 2364 3 2
  2355 2364 36 2 2325 2364 1 2 2326 2364 1 2 2327 2364 1 2 2332 2364 1 2 2337 2364 1 2 2338
  2364 1 2 2347 2364 1 2 2351 2364 108 2 2503 2494 1 2 2503 2519 16 2 2465 2492 1 2 2466 2492 2
  2 2479 2492 84 2 2610 2620 3 2 2616 2620 35 2 2582 2620 1 2 2583 2620 1 2 2588 2620 3 2 2603
  2620 234 2 2887 2902 3 2 2887 2878 1 2 2887 2903 16 2 2849 2876 1 2 2850 2876 55 2 2962 3031
  54 2 3014 3006 1 2 3015 3006 1 2 3014 3031 124 2 3142 3158 120 2 3263 3285 7 2 3270 3285 1 2
  3270 3286 2 2 3270 3266 1 3 3270 3266 3285 127 2 3398 3390 1 2 3399 3390 1 2 3398 3415 142 2
  3545 3530 2 2 3545 3535 1 3 3545 3535 3530 1 2 3545 3551 357 2 3906 4023 10 2 3916 4023 5 2
  3921 4023 5 2 3926 4023 5 2 3931 4023 13 2 3904 4021 10 2 3953 3954 2 2 3953 3956 1 2 4018
  3968 2 2 4019 3968 9 2 3953 3968 18 2 3986 4023 10 2 3996 4023 5 2 4001 4023 5 2 4006 4023 5
  2 4011 4023 13 2 3984 4021 109 2 4133 4142 2784 2 6917 6965 2 2 6919 6965 2 2 6921 6965 2 2
  6923 6965 2 2 6925 6965 4 2 6929 6965 41 2 6970 6965 2 2 6972 6965 3 2 6974 6965 1 2 6975
  6965 2 2 6978 6965 701 2 65 805 1 2 97 805 1 2 66 775 1 2 98 775 1 2 66 803 1 2 98 803 1 2 66
  817 1 2 98 817 1 3 67 807 769 1 3 99 807 769 1 2 68 775 1 2 100 775 1 2 68 803 1 2 100 803 1
  2 68 817 1 2 100 817 1 2 68 807 1 2 100 807 1 2 68 813 1 2 100 813 1 3 69 772 768 1 3 101 772
  768 1 3 69 772 769 1 3 101 772 769 1 2 69 813 1 2 101 813 1 2 69 816 1 2 101 816 1 3 69 807
  774 1 3 101 807 774 1 2 70 775 1 2 102 775 1 2 71 772 1 2 103 772 1 2 72 775 1 2 104 775 1 2
  72 803 1 2 104 803 1 2 72 776 1 2 104 776 1 2 72 807 1 2 104 807 1 2 72 814 1 2 104 814 1 2
  73 816 1 2 105 816 1 3 73 776 769 1 3 105 776 769 1 2 75 769 1 2 107 769 1 2 75 803 1 2 107
  803 1 2 75 817 1 2 107 817 1 2 76 803 1 2 108 803 1 3 76 803 772 1 3 108 803 772 1 2 76 817 1
  2 108 817 1 2 76 813 1 2 108 813 1 2 77 769 1 2 109 769 1 2 77 775 1 2 109 775 1 2 77 803 1 2
  109 803 1 2 78 775 1 2 110 775 1 2 78 803 1 2 110 803 1 2 78 817 1 2 110 817 1 2 78 813 1 2
  110 813 1 3 79 771 769 1 3 111 771 769 1 3 79 771 776 1 3 111 771 776 1 3 79 772 768 1 3 111
  772 768 1 3 79 772 769 1 3 111 772 769 1 2 80 769 1 2 112 769 1 2 80 775 1 2 112 775 1 2 82
  775 1 2 114 775 1 2 82 803 1 2 114 803 1 3 82 803 772 1 3 114 803 772 1 2 82 817 1 2 114 817
  1 2 83 775 1 2 115 775 1 2 83 803 1 2 115 803 1 3 83 769 775 1 3 115 769 775 1 3 83 780 775 1
  3 115 780 775 1 3 83 803 775 1 3 115 803 775 1 2 84 775 1 2 116 775 1 2 84 803 1 2 116 803 1
  2 84 817 1 2 116 817 1 2 84 813 1 2 116 813 1 2 85 804 1 2 117 804 1 2 85 816 1 2 117 816 1 2
  85 813 1 2 117 813 1 3 85 771 769 1 3 117 771 769 1 3 85 772 776 1 3 117 772 776 1 2 86 771 1
  2 118 771 1 2 86 803 1 2 118 803 1 2 87 768 1 2 119 768 1 2 87 769 1 2 119 769 1 2 87 776 1 2
  119 776 1 2 87 775 1 2 119 775 1 2 87 803 1 2 119 803 1 2 88 775 1 2 120 775 1 2 88 776 1 2
  120 776 1 2 89 775 1 2 121 775 1 2 90 770 1 2 122 770 1 2 90 803 1 2 122 803 1 2 90 817 1 2
  122 817 1 2 104 817 1 2 116 776 1 2 119 778 1 2 121 778 2 2 383 775 5 2 65 803 1 2 97 803 1 2
  65 777 1 2 97 777 1 3 65 770 769 1 3 97 770 769 1 3 65 770 768 1 3 97 770 768 1 3 65 770 777
  1 3 97 770 777 1 3 65 770 771 1 3 97 770 771 1 3 65 803 770 1 3 97 803 770 1 3 65 774 769 1 3
  97 774 769 1 3 65 774 768 1 3 97 774 768 1 3 65 774 777 1 3 97 774 777 1 3 65 774 771 1 3 97
  774 771 1 3 65 803 774 1 3 97 803 774 1 2 69 803 1 2 101 803 1 2 69 777 1 2 101 777 1 2 69
  771 1 2 101 771 1 3 69 770 769 1 3 101 770 769 1 3 69 770 768 1 3 101 770 768 1 3 69 770 777
  1 3 101 770 777 1 3 69 770 771 1 3 101 770 771 1 3 69 803 770 1 3 101 803 770 1 2 73 777 1 2
  105 777 1 2 73 803 1 2 105 803 1 2 79 803 1 2 111 803 1 2 79 777 1 2 111 777 1 3 79 770 769 1
  3 111 770 769 1 3 79 770 768 1 3 111 770 768 1 3 79 770 777 1 3 111 770 777 1 3 79 770 771 1
  3 111 770 771 1 3 79 803 770 1 3 111 803 770 1 3 79 795 769 1 3 111 795 769 1 3 79 795 768 1
  3 111 795 768 1 3 79 795 777 1 3 111 795 777 1 3 79 795 771 1 3 111 795 771 1 3 79 795 803 1
  3 111 795 803 1 2 85 803 1 2 117 803 1 2 85 777 1 2 117 777 1 3 85 795 769 1 3 117 795 769 1
  3 85 795 768 1 3 117 795 768 1 3 85 795 777 1 3 117 795 777 1 3 85 795 771 1 3 117 795 771 1
  3 85 795 803 1 3 117 795 803 1 2 89 768 1 2 121 768 1 2 89 803 1 2 121 803 1 2 89 777 1 2 121
  777 1 2 89 771 1 2 121 771 7 2 945 787 1 2 945 788 1 3 945 787 768 1 3 945 788 768 1 3 945
  787 769 1 3 945 788 769 1 3 945 787 834 1 3 945 788 834 1 2 913 787 1 2 913 788 1 3 913 787
  768 1 3 913 788 768 1 3 913 787 769 1 3 913 788 769 1 3 913 787 834 1 3 913 788 834 1 2 949
  787 1 2 949 788 1 3 949 787 768 1 3 949 788 768 1 3 949 787 769 1 3 949 788 769 3 2 917 787 1
  2 917 788 1 3 917 787 768 1 3 917 788 768 1 3 917 787 769 1 3 917 788 769 3 2 951 787 1 2 951
  788 1 3 951 787 768 1 3 951 788 768 1 3 951 787 769 1 3 951 788 769 1 3 951 787 834 1 3 951
  788 834 1 2 919 787 1 2 919 788 1 3 919 787 768 1 3 919 788 768 1 3 919 787 769 1 3 919 788
  769 1 3 919 787 834 1 3 919 788 834 1 2 953 787 1 2 953 788 1 3 953 787 768 1 3 953 788 768 1
  3 953 787 769 1 3 953 788 769 1 3 953 787 834 1 3 953 788 834 1 2 921 787 1 2 921 788 1 3 921
  787 768 1 3 921 788 768 1 3 921 787 769 1 3 921 788 769 1 3 921 787 834 1 3 921 788 834 1 2
  959 787 1 2 959 788 1 3 959 787 768 1 3 959 788 768 1 3 959 787 769 1 3 959 788 769 3 2 927
  787 1 2 927 788 1 3 927 787 768 1 3 927 788 768 1 3 927 787 769 1 3 927 788 769 3 2 965 787 1
  2 965 788 1 3 965 787 768 1 3 965 788 768 1 3 965 787 769 1 3 965 788 769 1 3 965 787 834 1 3
  965 788 834 2 2 933 788 2 3 933 788 768 2 3 933 788 769 2 3 933 788 834 1 2 969 787 1 2 969
  788 1 3 969 787 768 1 3 969 788 768 1 3 969 787 769 1 3 969 788 769 1 3 969 787 834 1 3 969
  788 834 1 2 937 787 1 2 937 788 1 3 937 787 768 1 3 937 788 768 1 3 937 787 769 1 3 937 788
  769 1 3 937 787 834 1 3 937 788 834 1 2 945 768 1 2 945 769 1 2 949 768 1 2 949 769 1 2 951
  768 1 2 951 769 1 2 953 768 1 2 953 769 1 2 959 768 1 2 959 769 1 2 965 768 1 2 965 769 1 2
  969 768 1 2 969 769 3 3 945 787 837 1 3 945 788 837 1 4 945 787 768 837 1 4 945 788 768 837 1
  4 945 787 769 837 1 4 945 788 769 837 1 4 945 787 834 837 1 4 945 788 834 837 1 3 913 787 837
  1 3 913 788 837 1 4 913 787 768 837 1 4 913 788 768 837 1 4 913 787 769 837 1 4 913 788 769
  837 1 4 913 787 834 837 1 4 913 788 834 837 1 3 951 787 837 1 3 951 788 837 1 4 951 787 768
  837 1 4 951 788 768 837 1 4 951 787 769 837 1 4 951 788 769 837 1 4 951 787 834 837 1 4 951
  788 834 837 1 3 919 787 837 1 3 919 788 837 1 4 919 787 768 837 1 4 919 788 768 837 1 4 919
  787 769 837 1 4 919 788 769 837 1 4 919 787 834 837 1 4 919 788 834 837 1 3 969 787 837 1 3
  969 788 837 1 4 969 787 768 837 1 4 969 788 768 837 1 4 969 787 769 837 1 4 969 788 769 837 1
  4 969 787 834 837 1 4 969 788 834 837 1 3 937 787 837 1 3 937 788 837 1 4 937 787 768 837 1 4
  937 788 768 837 1 4 937 787 769 837 1 4 937 788 769 837 1 4 937 787 834 837 1 4 937 788 834
  837 1 2 945 774 1 2 945 772 1 3 945 768 837 1 2 945 837 1 3 945 769 837 2 2 945 834 1 3 945
  834 837 1 2 913 774 1 2 913 772 1 2 913 768 1 2 913 769 1 2 913 837 2 1 953 3 2 168 834 1 3
  951 768 837 1 2 951 837 1 3 951 769 837 2 2 951 834 1 3 951 834 837 1 2 917 768 1 2 917 769 1
  2 919 768 1 2 919 769 1 2 919 837 1 2 8127 768 1 2 8127 769 1 2 8127 834 1 2 953 774 1 2 953
  772 1 3 953 776 768 1 3 953 776 769 3 2 953 834 1 3 953 776 834 1 2 921 774 1 2 921 772 1 2
  921 768 1 2 921 769 2 2 8190 768 1 2 8190 769 1 2 8190 834 1 2 965 774 1 2 965 772 1 3 965
  776 768 1 3 965 776 769 1 2 961 787 1 2 961 788 1 2 965 834 1 3 965 776 834 1 2 933 774 1 2
  933 772 1 2 933 768 1 2 933 769 1 2 929 788 1 2 168 768 1 2 168 769 1 1 96 3 3 969 768 837 1
  2 969 837 1 3 969 769 837 2 2 969 834 1 3 969 834 837 1 2 927 768 1 2 927 769 1 2 937 768 1 2
  937 769 1 2 937 837 1 1 180 3 1 8194 1 1 8195 293 1 937 4 1 75 1 2 65 778 111 2 8592 824 1 2
  8594 824 19 2 8596 824 31 2 8656 824 1 2 8660 824 1 2 8658 824 53 2 8707 824 5 2 8712 824 3 2
  8715 824 24 2 8739 824 2 2 8741 824 27 2 8764 824 3 2 8771 824 3 2 8773 824 2 2 8776 824 23 2
  61 824 2 2 8801 824 11 2 8781 824 1 2 60 824 1 2 62 824 1 2 8804 824 1 2 8805 824 3 2 8818
  824 1 2 8819 824 3 2 8822 824 1 2 8823 824 7 2 8826 824 1 2 8827 824 3 2 8834 824 1 2 8835
  824 3 2 8838 824 1 2 8839 824 35 2 8866 824 1 2 8872 824 1 2 8873 824 1 2 8875 824 49 2 8828
  824 1 2 8829 824 1 2 8849 824 1 2 8850 824 7 2 8882 824 1 2 8883 824 1 2 8884 824 1 2 8885
  824 60 1 12296 1 1 12297 1970 2 10973 824 1392 2 12363 12441 2 2 12365 12441 2 2 12367 12441
  2 2 12369 12441 2 2 12371 12441 2 2 12373 12441 2 2 12375 12441 2 2 12377 12441 2 2 12379
  12441 2 2 12381 12441 2 2 12383 12441 2 2 12385 12441 3 2 12388 12441 2 2 12390 12441 2 2
  12392 12441 7 2 12399 12441 1 2 12399 12442 2 2 12402 12441 1 2 12402 12442 2 2 12405 12441 1
  2 12405 12442 2 2 12408 12441 1 2 12408 12442 2 2 12411 12441 1 2 12411 12442 23 2 12358
  12441 10 2 12445 12441 14 2 12459 12441 2 2 12461 12441 2 2 12463 12441 2 2 12465 12441 2 2
  12467 12441 2 2 12469 12441 2 2 12471 12441 2 2 12473 12441 2 2 12475 12441 2 2 12477 12441 2
  2 12479 12441 2 2 12481 12441 3 2 12484 12441 2 2 12486 12441 2 2 12488 12441 7 2 12495 12441
  1 2 12495 12442 2 2 12498 12441 1 2 12498 12442 2 2 12501 12441 1 2 12501 12442 2 2 12504
  12441 1 2 12504 12442 2 2 12507 12441 1 2 12507 12442 23 2 12454 12441 3 2 12527 12441 1 2
  12528 12441 1 2 12529 12441 1 2 12530 12441 4 2 12541 12441 51202 1 35912 1 1 26356 1 1 36554
  1 1 36040 1 1 28369 1 1 20018 1 1 21477 1 1 40860 1 1 40860 1 1 22865 1 1 37329 1 1 21895 1 1
  22856 1 1 25078 1 1 30313 1 1 32645 1 1 34367 1 1 34746 1 1 35064 1 1 37007 1 1 27138 1 1
  27931 1 1 28889 1 1 29662 1 1 33853 1 1 37226 1 1 39409 1 1 20098 1 1 21365 1 1 27396 1 1
  29211 1 1 34349 1 1 40478 1 1 23888 1 1 28651 1 1 34253 1 1 35172 1 1 25289 1 1 33240 1 1
  34847 1 1 24266 1 1 26391 1 1 28010 1 1 29436 1 1 37070 1 1 20358 1 1 20919 1 1 21214 1 1
  25796 1 1 27347 1 1 29200 1 1 30439 1 1 32769 1 1 34310 1 1 34396 1 1 36335 1 1 38706 1 1
  39791 1 1 40442 1 1 30860 1 1 31103 1 1 32160 1 1 33737 1 1 37636 1 1 40575 1 1 35542 1 1
  22751 1 1 24324 1 1 31840 1 1 32894 1 1 29282 1 1 30922 1 1 36034 1 1 38647 1 1 22744 1 1
  23650 1 1 27155 1 1 28122 1 1 28431 1 1 32047 1 1 32311 1 1 38475 1 1 21202 1 1 32907 1 1
  20956 1 1 20940 1 1 31260 1 1 32190 1 1 33777 1 1 38517 1 1 35712 1 1 25295 1 1 27138 1 1
  35582 1 1 20025 1 1 23527 1 1 24594 1 1 29575 1 1 30064 1 1 21271 1 1 30971 1 1 20415 1 1
  24489 1 1 19981 1 1 27852 1 1 25976 1 1 32034 1 1 21443 1 1 22622 1 1 30465 1 1 33865 1 1
  35498 1 1 27578 1 1 36784 1 1 27784 1 1 25342 1 1 33509 1 1 25504 1 1 30053 1 1 20142 1 1
  20841 1 1 20937 1 1 26753 1 1 31975 1 1 33391 1 1 35538 1 1 37327 1 1 21237 1 1 21570 1 1
  22899 1 1 24300 1 1 26053 1 1 28670 1 1 31018 1 1 38317 1 1 39530 1 1 40599 1 1 40654 1 1
  21147 1 1 26310 1 1 27511 1 1 36706 1 1 24180 1 1 24976 1 1 25088 1 1 25754 1 1 28451 1 1
  29001 1 1 29833 1 1 31178 1 1 32244 1 1 32879 1 1 36646 1 1 34030 1 1 36899 1 1 37706 1 1
  21015 1 1 21155 1 1 21693 1 1 28872 1 1 35010 1 1 35498 1 1 24265 1 1 24565 1 1 25467 1 1
  27566 1 1 31806 1 1 29557 1 1 20196 1 1 22265 1 1 23527 1 1 23994 1 1 24604 1 1 29618 1 1
  29801 1 1 32666 1 1 32838 1 1 37428 1 1 38646 1 1 38728 1 1 38936 1 1 20363 1 1 31150 1 1
  37300 1 1 38584 1 1 24801 1 1 20102 1 1 20698 1 1 23534 1 1 23615 1 1 26009 1 1 27138 1 1
  29134 1 1 30274 1 1 34044 1 1 36988 1 1 40845 1 1 26248 1 1 38446 1 1 21129 1 1 26491 1 1
  26611 1 1 27969 1 1 28316 1 1 29705 1 1 30041 1 1 30827 1 1 32016 1 1 39006 1 1 20845 1 1
  25134 1 1 38520 1 1 20523 1 1 23833 1 1 28138 1 1 36650 1 1 24459 1 1 24900 1 1 26647 1 1
  29575 1 1 38534 1 1 21033 1 1 21519 1 1 23653 1 1 26131 1 1 26446 1 1 26792 1 1 27877 1 1
  29702 1 1 30178 1 1 32633 1 1 35023 1 1 35041 1 1 37324 1 1 38626 1 1 21311 1 1 28346 1 1
  21533 1 1 29136 1 1 29848 1 1 34298 1 1 38563 1 1 40023 1 1 40607 1 1 26519 1 1 28107 1 1
  33256 1 1 31435 1 1 31520 1 1 31890 1 1 29376 1 1 28825 1 1 35672 1 1 20160 1 1 33590 1 1
  21050 1 1 20999 1 1 24230 1 1 25299 1 1 31958 1 1 23429 1 1 27934 1 1 26292 1 1 36667 1 1
  34892 1 1 38477 1 1 35211 1 1 24275 1 1 20800 1 1 21952 3 1 22618 2 1 26228 3 1 20958 1 1
  29482 1 1 30410 1 1 31036 1 1 31070 1 1 31077 1 1 31119 1 1 38742 1 1 31934 1 1 32701 2 1
  34322 2 1 35576 3 1 36920 1 1 37117 4 1 39151 1 1 39164 1 1 39208 1 1 40372 1 1 37086 1 1
  38583 1 1 20398 1 1 20711 1 1 20813 1 1 21193 1 1 21220 1 1 21329 1 1 21917 1 1 22022 1 1
  22120 1 1 22592 1 1 22696 1 1 23652 1 1 23662 1 1 24724 1 1 24936 1 1 24974 1 1 25074 1 1
  25935 1 1 26082 1 1 26257 1 1 26757 1 1 28023 1 1 28186 1 1 28450 1 1 29038 1 1 29227 1 1
  29730 1 1 30865 1 1 31038 1 1 31049 1 1 31048 1 1 31056 1 1 31062 1 1 31069 1 1 31117 1 1
  31118 1 1 31296 1 1 31361 1 1 31680 1 1 32244 1 1 32265 1 1 32321 1 1 32626 1 1 32773 1 1
  33261 1 1 33401 1 1 33401 1 1 33879 1 1 35088 1 1 35222 1 1 35585 1 1 35641 1 1 36051 1 1
  36104 1 1 36790 1 1 36920 1 1 38627 1 1 38911 1 1 38971 1 1 24693 1 1 148206 1 1 33304 3 1
  20006 1 1 20917 1 1 20840 1 1 20352 1 1 20805 1 1 20864 1 1 21191 1 1 21242 1 1 21917 1 1
  21845 1 1 21913 1 1 21986 1 1 22618 1 1 22707 1 1 22852 1 1 22868 1 1 23138 1 1 23336 1 1
  24274 1 1 24281 1 1 24425 1 1 24493 1 1 24792 1 1 24910 1 1 24840 1 1 24974 1 1 24928 1 1
  25074 1 1 25140 1 1 25540 1 1 25628 1 1 25682 1 1 25942 1 1 26228 1 1 26391 1 1 26395 1 1
  26454 1 1 27513 1 1 27578 1 1 27969 1 1 28379 1 1 28363 1 1 28450 1 1 28702 1 1 29038 1 1
  30631 1 1 29237 1 1 29359 1 1 29482 1 1 29809 1 1 29958 1 1 30011 1 1 30237 1 1 30239 1 1
  30410 1 1 30427 1 1 30452 1 1 30538 1 1 30528 1 1 30924 1 1 31409 1 1 31680 1 1 31867 1 1
  32091 1 1 32244 1 1 32574 1 1 32773 1 1 33618 1 1 33775 1 1 34681 1 1 35137 1 1 35206 1 1
  35222 1 1 35519 1 1 35576 1 1 35531 1 1 35585 1 1 35582 1 1 35565 1 1 35641 1 1 35722 1 1
  36104 1 1 36664 1 1 36978 1 1 37273 1 1 37494 1 1 38524 1 1 38627 1 1 38742 1 1 38875 1 1
  38911 1 1 38923 1 1 38971 1 1 39698 1 1 40860 1 1 141386 1 1 141380 1 1 144341 1 1 15261 1 1
  16408 1 1 16441 1 1 152137 1 1 154832 1 1 163539 1 1 40771 1 1 40846 68 2 1497 1460 2 2 1522
  1463 11 2 1513 1473 1 2 1513 1474 1 3 1513 1468 1473 1 3 1513 1468 1474 1 2 1488 1463 1 2
  1488 1464 1 2 1488 1468 1 2 1489 1468 1 2 1490 1468 1 2 1491 1468 1 2 1492 1468 1 2 1493 1468
  1 2 1494 1468 2 2 1496 1468 1 2 1497 1468 1 2 1498 1468 1 2 1499 1468 1 2 1500 1468 2 2 1502
  1468 2 2 1504 1468 1 2 1505 1468 2 2 1507 1468 1 2 1508 1468 2 2 1510 1468 1 2 1511 1468 1 2
  1512 1468 1 2 1513 1468 1 2 1514 1468 1 2 1493 1465 1 2 1489 1471 1 2 1499 1471 1 2 1508 1471
  5452 2 69785 69818 2 2 69787 69818 15 2 69797 69818 131 2 69937 69927 1 2 69938 69927 540 2
  70471 70462 1 2 70471 70487 367 2 70841 70842 1 2 70841 70832 2 2 70841 70845 252 2 71096
  71087 1 2 71097 71087 893 2 71989 71984 47142 2 119127 119141 1 2 119128 119141 1 3 119128
  119141 119150 1 3 119128 119141 119151 1 3 119128 119141 119152 1 3 119128 119141 119153 1 3
  119128 119141 119154 87 2 119225 119141 1 2 119226 119141 1 3 119225 119141 119150 1 3 119226
  119141 119150 1 3 119225 119141 119151 1 3 119226 119141 119151 75328 1 20029 1 1 20024 1 1
  20033 1 1 131362 1 1 20320 1 1 20398 1 1 20411 1 1 20482 1 1 20602 1 1 20633 1 1 20711 1 1
  20687 1 1 13470 1 1 132666 1 1 20813 1 1 20820 1 1 20836 1 1 20855 1 1 132380 1 1 13497 1 1
  20839 1 1 20877 1 1 132427 1 1 20887 1 1 20900 1 1 20172 1 1 20908 1 1 20917 1 1 168415 1 1
  20981 1 1 20995 1 1 13535 1 1 21051 1 1 21062 1 1 21106 1 1 21111 1 1 13589 1 1 21191 1 1
  21193 1 1 21220 1 1 21242 1 1 21253 1 1 21254 1 1 21271 1 1 21321 1 1 21329 1 1 21338 1 1
  21363 1 1 21373 1 1 21375 1 1 21375 1 1 21375 1 1 133676 1 1 28784 1 1 21450 1 1 21471 1 1
  133987 1 1 21483 1 1 21489 1 1 21510 1 1 21662 1 1 21560 1 1 21576 1 1 21608 1 1 21666 1 1
  21750 1 1 21776 1 1 21843 1 1 21859 1 1 21892 1 1 21892 1 1 21913 1 1 21931 1 1 21939 1 1
  21954 1 1 22294 1 1 22022 1 1 22295 1 1 22097 1 1 22132 1 1 20999 1 1 22766 1 1 22478 1 1
  22516 1 1 22541 1 1 22411 1 1 22578 1 1 22577 1 1 22700 1 1 136420 1 1 22770 1 1 22775 1 1
  22790 1 1 22810 1 1 22818 1 1 22882 1 1 136872 1 1 136938 1 1 23020 1 1 23067 1 1 23079 1 1
  23000 1 1 23142 1 1 14062 1 1 14076 1 1 23304 1 1 23358 1 1 23358 1 1 137672 1 1 23491 1 1
  23512 1 1 23527 1 1 23539 1 1 138008 1 1 23551 1 1 23558 1 1 24403 1 1 23586 1 1 14209 1 1
  23648 1 1 23662 1 1 23744 1 1 23693 1 1 138724 1 1 23875 1 1 138726 1 1 23918 1 1 23915 1 1
  23932 1 1 24033 1 1 24034 1 1 14383 1 1 24061 1 1 24104 1 1 24125 1 1 24169 1 1 14434 1 1
  139651 1 1 14460 1 1 24240 1 1 24243 1 1 24246 1 1 24266 1 1 172946 1 1 24318 1 1 140081 1 1
  140081 1 1 33281 1 1 24354 1 1 24354 1 1 14535 1 1 144056 1 1 156122 1 1 24418 1 1 24427 1 1
  14563 1 1 24474 1 1 24525 1 1 24535 1 1 24569 1 1 24705 1 1 14650 1 1 14620 1 1 24724 1 1
  141012 1 1 24775 1 1 24904 1 1 24908 1 1 24910 1 1 24908 1 1 24954 1 1 24974 1 1 25010 1 1
  24996 1 1 25007 1 1 25054 1 1 25074 1 1 25078 1 1 25104 1 1 25115 1 1 25181 1 1 25265 1 1
  25300 1 1 25424 1 1 142092 1 1 25405 1 1 25340 1 1 25448 1 1 25475 1 1 25572 1 1 142321 1 1
  25634 1 1 25541 1 1 25513 1 1 14894 1 1 25705 1 1 25726 1 1 25757 1 1 25719 1 1 14956 1 1
  25935 1 1 25964 1 1 143370 1 1 26083 1 1 26360 1 1 26185 1 1 15129 1 1 26257 1 1 15112 1 1
  15076 1 1 20882 1 1 20885 1 1 26368 1 1 26268 1 1 32941 1 1 17369 1 1 26391 1 1 26395 1 1
  26401 1 1 26462 1 1 26451 1 1 144323 1 1 15177 1 1 26618 1 1 26501 1 1 26706 1 1 26757 1 1
  144493 1 1 26766 1 1 26655 1 1 26900 1 1 15261 1 1 26946 1 1 27043 1 1 27114 1 1 27304 1 1
  145059 1 1 27355 1 1 15384 1 1 27425 1 1 145575 1 1 27476 1 1 15438 1 1 27506 1 1 27551 1 1
  27578 1 1 27579 1 1 146061 1 1 138507 1 1 146170 1 1 27726 1 1 146620 1 1 27839 1 1 27853 1 1
  27751 1 1 27926 1 1 27966 1 1 28023 1 1 27969 1 1 28009 1 1 28024 1 1 28037 1 1 146718 1 1
  27956 1 1 28207 1 1 28270 1 1 15667 1 1 28363 1 1 28359 1 1 147153 1 1 28153 1 1 28526 1 1
  147294 1 1 147342 1 1 28614 1 1 28729 1 1 28702 1 1 28699 1 1 15766 1 1 28746 1 1 28797 1 1
  28791 1 1 28845 1 1 132389 1 1 28997 1 1 148067 1 1 29084 1 1 148395 1 1 29224 1 1 29237 1 1
  29264 1 1 149000 1 1 29312 1 1 29333 1 1 149301 1 1 149524 1 1 29562 1 1 29579 1 1 16044 1 1
  29605 1 1 16056 1 1 16056 1 1 29767 1 1 29788 1 1 29809 1 1 29829 1 1 29898 1 1 16155 1 1
  29988 1 1 150582 1 1 30014 1 1 150674 1 1 30064 1 1 139679 1 1 30224 1 1 151457 1 1 151480 1
  1 151620 1 1 16380 1 1 16392 1 1 30452 1 1 151795 1 1 151794 1 1 151833 1 1 151859 1 1 30494
  1 1 30495 1 1 30495 1 1 30538 1 1 16441 1 1 30603 1 1 16454 1 1 16534 1 1 152605 1 1 30798 1
  1 30860 1 1 30924 1 1 16611 1 1 153126 1 1 31062 1 1 153242 1 1 153285 1 1 31119 1 1 31211 1
  1 16687 1 1 31296 1 1 31306 1 1 31311 1 1 153980 1 1 154279 1 1 154279 1 1 31470 1 1 16898 1
  1 154539 1 1 31686 1 1 31689 1 1 16935 1 1 154752 1 1 31954 1 1 17056 1 1 31976 1 1 31971 1 1
  32000 1 1 155526 1 1 32099 1 1 17153 1 1 32199 1 1 32258 1 1 32325 1 1 17204 1 1 156200 1 1
  156231 1 1 17241 1 1 156377 1 1 32634 1 1 156478 1 1 32661 1 1 32762 1 1 32773 1 1 156890 1 1
  156963 1 1 32864 1 1 157096 1 1 32880 1 1 144223 1 1 17365 1 1 32946 1 1 33027 1 1 17419 1 1
  33086 1 1 23221 1 1 157607 1 1 157621 1 1 144275 1 1 144284 1 1 33281 1 1 33284 1 1 36766 1 1
  17515 1 1 33425 1 1 33419 1 1 33437 1 1 21171 1 1 33457 1 1 33459 1 1 33469 1 1 33510 1 1
  158524 1 1 33509 1 1 33565 1 1 33635 1 1 33709 1 1 33571 1 1 33725 1 1 33767 1 1 33879 1 1
  33619 1 1 33738 1 1 33740 1 1 33756 1 1 158774 1 1 159083 1 1 158933 1 1 17707 1 1 34033 1 1
  34035 1 1 34070 1 1 160714 1 1 34148 1 1 159532 1 1 17757 1 1 17761 1 1 159665 1 1 159954 1 1
  17771 1 1 34384 1 1 34396 1 1 34407 1 1 34409 1 1 34473 1 1 34440 1 1 34574 1 1 34530 1 1
  34681 1 1 34600 1 1 34667 1 1 34694 1 1 17879 1 1 34785 1 1 34817 1 1 17913 1 1 34912 1 1
  34915 1 1 161383 1 1 35031 1 1 35038 1 1 17973 1 1 35066 1 1 13499 1 1 161966 1 1 162150 1 1
  18110 1 1 18119 1 1 35488 1 1 35565 1 1 35722 1 1 35925 1 1 162984 1 1 36011 1 1 36033 1 1
  36123 1 1 36215 1 1 163631 1 1 133124 1 1 36299 1 1 36284 1 1 36336 1 1 133342 1 1 36564 1 1
  36664 1 1 165330 1 1 165357 1 1 37012 1 1 37105 1 1 37137 1 1 165678 1 1 37147 1 1 37432 1 1
  37591 1 1 37592 1 1 37500 1 1 37881 1 1 37909 1 1 166906 1 1 38283 1 1 18837 1 1 38327 1 1
  167287 1 1 18918 1 1 38595 1 1 23986 1 1 38691 1 1 168261 1 1 168474 1 1 19054 1 1 19062 1 1
  38880 1 1 168970 1 1 19122 1 1 169110 1 1 38923 1 1 38923 1 1 38953 1 1 169398 1 1 39138 1 1
  19251 1 1 39209 1 1 39335 1 1 39362 1 1 39422 1 1 19406 1 1 170800 1 1 39698 1 1 40000 1 1
  40189 1 1 19662 1 1 19693 1 1 40295 1 1 172238 1 1 19704 1 1 172293 1 1 172558 1 1 172689 1 1
  40635 1 1 19798 1 1 40697 1 1 40702 1 1 40709 1 1 40719 1 1 40726 1 1 40763 1 1 173568"

/-- For a first character, the second ones it combines with, each followed by the result. -/
def compositions : CodeTable := CodeTable.ofSteps
  "60 2 824 8814 1 2 824 8800 1 2 824 8815 3 32 768 192 769 193 770 194 771 195 772 256 774 258
  775 550 776 196 777 7842 778 197 780 461 783 512 785 514 803 7840 805 7680 808 260 1 6 775
  7682 803 7684 817 7686 1 10 769 262 770 264 775 266 780 268 807 199 1 12 775 7690 780 270 803
  7692 807 7696 813 7698 817 7694 1 34 768 200 769 201 770 202 771 7868 772 274 774 276 775 278
  776 203 777 7866 780 282 783 516 785 518 803 7864 807 552 808 280 813 7704 816 7706 1 2 775
  7710 1 14 769 500 770 284 772 7712 774 286 775 288 780 486 807 290 1 14 770 292 775 7714 776
  7718 780 542 803 7716 807 7720 814 7722 1 30 768 204 769 205 770 206 771 296 772 298 774 300
  775 304 776 207 777 7880 780 463 783 520 785 522 803 7882 808 302 816 7724 1 2 770 308 1 10
  769 7728 780 488 803 7730 807 310 817 7732 1 12 769 313 780 317 803 7734 807 315 813 7740 817
  7738 1 6 769 7742 775 7744 803 7746 1 18 768 504 769 323 771 209 775 7748 780 327 803 7750
  807 325 813 7754 817 7752 1 32 768 210 769 211 770 212 771 213 772 332 774 334 775 558 776
  214 777 7886 779 336 780 465 783 524 785 526 795 416 803 7884 808 490 1 4 769 7764 775 7766 2
  16 769 340 775 7768 780 344 783 528 785 530 803 7770 807 342 817 7774 1 14 769 346 770 348
  775 7776 780 352 803 7778 806 536 807 350 1 14 775 7786 780 356 803 7788 806 538 807 354 813
  7792 817 7790 1 38 768 217 769 218 770 219 771 360 772 362 774 364 776 220 777 7910 778 366
  779 368 780 467 783 532 785 534 795 431 803 7908 804 7794 808 370 813 7798 816 7796 1 4 771
  7804 803 7806 1 12 768 7808 769 7810 770 372 775 7814 776 7812 803 7816 1 4 775 7818 776 7820
  1 18 768 7922 769 221 770 374 771 7928 772 562 775 7822 776 376 777 7926 803 7924 1 12 769
  377 770 7824 775 379 780 381 803 7826 817 7828 7 32 768 224 769 225 770 226 771 227 772 257
  774 259 775 551 776 228 777 7843 778 229 780 462 783 513 785 515 803 7841 805 7681 808 261 1
  6 775 7683 803 7685 817 7687 1 10 769 263 770 265 775 267 780 269 807 231 1 12 775 7691 780
  271 803 7693 807 7697 813 7699 817 7695 1 34 768 232 769 233 770 234 771 7869 772 275 774 277
  775 279 776 235 777 7867 780 283 783 517 785 519 803 7865 807 553 808 281 813 7705 816 7707 1
  2 775 7711 1 14 769 501 770 285 772 7713 774 287 775 289 780 487 807 291 1 16 770 293 775
  7715 776 7719 780 543 803 7717 807 7721 814 7723 817 7830 1 28 768 236 769 237 770 238 771
  297 772 299 774 301 776 239 777 7881 780 464 783 521 785 523 803 7883 808 303 816 7725 1 4
  770 309 780 496 1 10 769 7729 780 489 803 7731 807 311 817 7733 1 12 769 314 780 318 803 7735
  807 316 813 7741 817 7739 1 6 769 7743 775 7745 803 7747 1 18 768 505 769 324 771 241 775
  7749 780 328 803 7751 807 326 813 7755 817 7753 1 32 768 242 769 243 770 244 771 245 772 333
  774 335 775 559 776 246 777 7887 779 337 780 466 783 525 785 527 795 417 803 7885 808 491 1 4
  769 7765 775 7767 2 16 769 341 775 7769 780 345 783 529 785 531 803 7771 807 343 817 7775 1
  14 769 347 770 349 775 7777 780 353 803 7779 806 537 807 351 1 16 775 7787 776 7831 780 357
  803 7789 806 539 807 355 813 7793 817 7791 1 38 768 249 769 250 770 251 771 361 772 363 774
  365 776 252 777 7911 778 367 779 369 780 468 783 533 785 535 795 432 803 7909 804 7795 808
  371 813 7799 816 7797 1 4 771 7805 803 7807 1 14 768 7809 769 7811 770 373 775 7815 776 7813
  778 7832 803 7817 1 4 775 7819 776 7821 1 20 768 7923 769 253 770 375 771 7929 772 563 775
  7823 776 255 777 7927 778 7833 803 7925 1 12 769 378 770 7825 775 380 780 382 803 7827 817
  7829 46 6 768 8173 769 901 834 8129 26 8 768 7846 769 7844 771 7850 777 7848 2 2 772 478 1 2
  769 506 1 4 769 508 772 482 1 2 769 7688 3 8 768 7872 769 7870 771 7876 777 7874 5 2 769 7726
  5 8 768 7890 769 7888 771 7894 777 7892 1 6 769 7756 772 556 776 7758 1 2 772 554 2 2 769 510
  4 8 768 475 769 471 772 469 780 473 6 8 768 7847 769 7845 771 7851 777 7849 2 2 772 479 1 2
  769 507 1 4 769 509 772 483 1 2 769 7689 3 8 768 7873 769 7871 771 7877 777 7875 5 2 769 7727
  5 8 768 7891 769 7889 771 7895 777 7893 1 6 769 7757 772 557 776 7759 1 2 772 555 2 2 769 511
  4 8 768 476 769 472 772 470 780 474 6 8 768 7856 769 7854 771 7860 777 7858 1 8 768 7857 769
  7855 771 7861 777 7859 15 4 768 7700 769 7702 1 4 768 7701 769 7703 57 4 768 7760 769 7762 1
  4 768 7761 769 7763 13 2 775 7780 1 2 775 7781 5 2 775 7782 1 2 775 7783 7 2 769 7800 1 2 769
  7801 1 2 776 7802 1 2 776 7803 20 2 775 7835 33 10 768 7900 769 7898 771 7904 777 7902 803
  7906 1 10 768 7901 769 7899 771 7905 777 7903 803 7907 14 10 768 7914 769 7912 771 7918 777
  7916 803 7920 1 10 768 7915 769 7913 771 7919 777 7917 803 7921 7 2 780 494 51 2 772 492 1 2
  772 493 59 2 772 480 1 2 772 481 1 2 774 7708 1 2 774 7709 5 2 772 560 1 2 772 561 99 2 780
  495 255 14 768 8122 769 902 772 8121 774 8120 787 7944 788 7945 837 8124 4 8 768 8136 769 904
  787 7960 788 7961 2 10 768 8138 769 905 787 7976 788 7977 837 8140 2 14 768 8154 769 906 772
  8153 774 8152 776 938 787 7992 788 7993 6 8 768 8184 769 908 787 8008 788 8009 2 2 788 8172 4
  12 768 8170 769 910 772 8169 774 8168 776 939 788 8025 4 10 768 8186 769 911 787 8040 788
  8041 837 8188 3 2 837 8116 2 2 837 8132 3 16 768 8048 769 940 772 8113 774 8112 787 7936 788
  7937 834 8118 837 8115 4 8 768 8050 769 941 787 7952 788 7953 2 12 768 8052 769 942 787 7968
  788 7969 834 8134 837 8131 2 16 768 8054 769 943 772 8145 774 8144 776 970 787 7984 788 7985
  834 8150 6 8 768 8056 769 972 787 8000 788 8001 2 4 787 8164 788 8165 4 16 768 8058 769 973
  772 8161 774 8160 776 971 787 8016 788 8017 834 8166 4 12 768 8060 769 974 787 8032 788 8033
  834 8182 837 8179 1 6 768 8146 769 912 834 8151 1 6 768 8162 769 944 834 8167 3 2 837 8180 4
  4 769 979 776 980 52 2 776 1031 10 4 774 1232 776 1234 3 2 769 1027 2 6 768 1024 774 1238 776
  1025 1 4 774 1217 776 1244 1 2 776 1246 1 8 768 1037 772 1250 774 1049 776 1252 2 2 769 1036
  4 2 776 1254 5 8 772 1262 774 1038 776 1264 779 1266 4 2 776 1268 4 2 776 1272 2 2 776 1260 3
  4 774 1233 776 1235 3 2 769 1107 2 6 768 1104 774 1239 776 1105 1 4 774 1218 776 1245 1 2 776
  1247 1 8 768 1117 772 1251 774 1081 776 1253 2 2 769 1116 4 2 776 1255 5 8 772 1263 774 1118
  776 1265 779 1267 4 2 776 1269 4 2 776 1273 2 2 776 1261 9 2 776 1111 30 2 783 1142 1 2 783
  1143 99 2 776 1242 1 2 776 1243 15 2 776 1258 1 2 776 1259 318 6 1619 1570 1620 1571 1621
  1573 33 2 1620 1572 2 2 1620 1574 119 2 1620 1730 17 2 1620 1747 3 2 1620 1728 595 2 2364
  2345 8 2 2364 2353 3 2 2364 2356 148 4 2494 2507 2519 2508 384 6 2878 2891 2902 2888 2903
  2892 75 2 3031 2964 52 4 3006 3018 3031 3020 1 2 3006 3019 127 2 3158 3144 121 2 3285 3264 7
  6 3266 3274 3285 3271 3286 3272 4 2 3285 3275 124 4 3390 3402 3415 3404 1 2 3390 3403 146 6
  3530 3546 3535 3548 3551 3550 3 2 3530 3549 585 2 4142 4134 2784 2 6965 6918 2 2 6965 6920 2
  2 6965 6922 2 2 6965 6924 2 2 6965 6926 4 2 6965 6930 41 2 6965 6971 2 2 6965 6973 2 2 6965
  6976 1 2 6965 6977 3 2 6965 6979 756 2 772 7736 1 2 772 7737 35 2 772 7772 1 2 772 7773 7 2
  775 7784 1 2 775 7785 61 4 770 7852 774 7862 1 4 770 7853 774 7863 23 2 770 7878 1 2 770 7879
  19 2 770 7896 1 2 770 7897 51 8 768 7938 769 7940 834 7942 837 8064 1 8 768 7939 769 7941 834
  7943 837 8065 1 2 837 8066 1 2 837 8067 1 2 837 8068 1 2 837 8069 1 2 837 8070 1 2 837 8071 1
  8 768 7946 769 7948 834 7950 837 8072 1 8 768 7947 769 7949 834 7951 837 8073 1 2 837 8074 1
  2 837 8075 1 2 837 8076 1 2 837 8077 1 2 837 8078 1 2 837 8079 1 4 768 7954 769 7956 1 4 768
  7955 769 7957 7 4 768 7962 769 7964 1 4 768 7963 769 7965 7 8 768 7970 769 7972 834 7974 837
  8080 1 8 768 7971 769 7973 834 7975 837 8081 1 2 837 8082 1 2 837 8083 1 2 837 8084 1 2 837
  8085 1 2 837 8086 1 2 837 8087 1 8 768 7978 769 7980 834 7982 837 8088 1 8 768 7979 769 7981
  834 7983 837 8089 1 2 837 8090 1 2 837 8091 1 2 837 8092 1 2 837 8093 1 2 837 8094 1 2 837
  8095 1 6 768 7986 769 7988 834 7990 1 6 768 7987 769 7989 834 7991 7 6 768 7994 769 7996 834
  7998 1 6 768 7995 769 7997 834 7999 7 4 768 8002 769 8004 1 4 768 8003 769 8005 7 4 768 8010
  769 8012 1 4 768 8011 769 8013 7 6 768 8018 769 8020 834 8022 1 6 768 8019 769 8021 834 8023
  8 6 768 8027 769 8029 834 8031 7 8 768 8034 769 8036 834 8038 837 8096 1 8 768 8035 769 8037
  834 8039 837 8097 1 2 837 8098 1 2 837 8099 1 2 837 8100 1 2 837 8101 1 2 837 8102 1 2 837
  8103 1 8 768 8042 769 8044 834 8046 837 8104 1 8 768 8043 769 8045 834 8047 837 8105 1 2 837
  8106 1 2 837 8107 1 2 837 8108 1 2 837 8109 1 2 837 8110 1 2 837 8111 1 2 837 8114 4 2 837
  8130 8 2 837 8178 58 2 837 8119 9 6 768 8141 769 8142 834 8143 7 2 837 8135 48 2 837 8183 8 6
  768 8157 769 8158 834 8159 402 2 824 8602 2 2 824 8603 2 2 824 8622 60 2 824 8653 2 2 824
  8655 2 2 824 8654 47 2 824 8708 5 2 824 8713 3 2 824 8716 24 2 824 8740 2 2 824 8742 23 2 824
  8769 7 2 824 8772 2 2 824 8775 3 2 824 8777 5 2 824 8813 20 2 824 8802 3 2 824 8816 1 2 824
  8817 13 2 824 8820 1 2 824 8821 3 2 824 8824 1 2 824 8825 3 2 824 8832 1 2 824 8833 1 2 824
  8928 1 2 824 8929 5 2 824 8836 1 2 824 8837 3 2 824 8840 1 2 824 8841 10 2 824 8930 1 2 824
  8931 16 2 824 8876 6 2 824 8877 1 2 824 8878 2 2 824 8879 7 2 824 8938 1 2 824 8939 1 2 824
  8940 1 2 824 8941 3473 2 12441 12436 5 2 12441 12364 2 2 12441 12366 2 2 12441 12368 2 2
  12441 12370 2 2 12441 12372 2 2 12441 12374 2 2 12441 12376 2 2 12441 12378 2 2 12441 12380 2
  2 12441 12382 2 2 12441 12384 2 2 12441 12386 3 2 12441 12389 2 2 12441 12391 2 2 12441 12393
  7 4 12441 12400 12442 12401 3 4 12441 12403 12442 12404 3 4 12441 12406 12442 12407 3 4 12441
  12409 12442 12410 3 4 12441 12412 12442 12413 34 2 12441 12446 9 2 12441 12532 5 2 12441
  12460 2 2 12441 12462 2 2 12441 12464 2 2 12441 12466 2 2 12441 12468 2 2 12441 12470 2 2
  12441 12472 2 2 12441 12474 2 2 12441 12476 2 2 12441 12478 2 2 12441 12480 2 2 12441 12482 3
  2 12441 12485 2 2 12441 12487 2 2 12441 12489 7 4 12441 12496 12442 12497 3 4 12441 12499
  12442 12500 3 4 12441 12502 12442 12503 3 4 12441 12505 12442 12506 3 4 12441 12508 12442
  12509 20 2 12441 12535 1 2 12441 12536 1 2 12441 12537 1 2 12441 12538 11 2 12441 12542 57244
  2 69818 69786 2 2 69818 69788 10 2 69818 69803 140 2 69927 69934 1 2 69927 69935 533 4 70462
  70475 70487 70476 370 6 70832 70844 70842 70843 70845 70846 255 2 71087 71098 1 2 71087 71099
  892 2 71984 71992"

/-- Characters with a combining class other than zero, and that class. -/
def combiningClasses : CodeTable := CodeTable.ofSteps
  "768 1 230 1 1 230 1 1 230 1 1 230 1 1 230 1 1 230 1 1 230 1 1 230 1 1 230 1 1 230 1 1 230 1 1
  230 1 1 230 1 1 230 1 1 230 1 1 230 1 1 230 1 1 230 1 1 230 1 1 230 1 1 230 1 1 232 1 1 220 1
  1 220 1 1 220 1 1 220 1 1 232 1 1 216 1 1 220 1 1 220 1 1 220 1 1 220 1 1 220 1 1 202 1 1 202
  1 1 220 1 1 220 1 1 220 1 1 220 1 1 202 1 1 202 1 1 220 1 1 220 1 1 220 1 1 220 1 1 220 1 1
  220 1 1 220 1 1 220 1 1 220 1 1 220 1 1 220 1 1 1 1 1 1 1 1 1 1 1 1 1 1 1 1 1 220 1 1 220 1 1
  220 1 1 220 1 1 230 1 1 230 1 1 230 1 1 230 1 1 230 1 1 230 1 1 230 1 1 230 1 1 240 1 1 230 1
  1 220 1 1 220 1 1 220 1 1 230 1 1 230 1 1 230 1 1 220 1 1 220 2 1 230 1 1 230 1 1 230 1 1 220
  1 1 220 1 1 220 1 1 220 1 1 230 1 1 232 1 1 220 1 1 220 1 1 230 1 1 233 1 1 234 1 1 234 1 1
  233 1 1 234 1 1 234 1 1 233 1 1 230 1 1 230 1 1 230 1 1 230 1 1 230 1 1 230 1 1 230 1 1 230 1
  1 230 1 1 230 1 1 230 1 1 230 1 1 230 276 1 230 1 1 230 1 1 230 1 1 230 1 1 230 266 1 220 1 1
  230 1 1 230 1 1 230 1 1 230 1 1 220 1 1 230 1 1 230 1 1 230 1 1 222 1 1 220 1 1 230 1 1 230 1
  1 230 1 1 230 1 1 230 1 1 230 1 1 220 1 1 220 1 1 220 1 1 220 1 1 220 1 1 220 1 1 230 1 1 230
  1 1 220 1 1 230 1 1 230 1 1 222 1 1 228 1 1 230 1 1 10 1 1 11 1 1 12 1 1 13 1 1 14 1 1 15 1 1
  16 1 1 17 1 1 18 1 1 19 1 1 19 1 1 20 1 1 21 1 1 22 2 1 23 2 1 24 1 1 25 2 1 230 1 1 220 2 1
  18 73 1 230 1 1 230 1 1 230 1 1 230 1 1 230 1 1 230 1 1 230 1 1 230 1 1 30 1 1 31 1 1 32 49 1
  27 1 1 28 1 1 29 1 1 30 1 1 31 1 1 32 1 1 33 1 1 34 1 1 230 1 1 230 1 1 220 1 1 220 1 1 230 1
  1 230 1 1 230 1 1 230 1 1 230 1 1 220 1 1 230 1 1 230 1 1 220 17 1 35 102 1 230 1 1 230 1 1
  230 1 1 230 1 1 230 1 1 230 1 1 230 3 1 230 1 1 230 1 1 230 1 1 230 1 1 220 1 1 230 3 1 230 1
  1 230 2 1 220 1 1 230 1 1 230 1 1 220 36 1 36 31 1 230 1 1 220 1 1 230 1 1 230 1 1 220 1 1
  230 1 1 230 1 1 220 1 1 220 1 1 220 1 1 230 1 1 220 1 1 220 1 1 230 1 1 220 1 1 230 1 1 230 1
  1 230 1 1 220 1 1 230 1 1 220 1 1 230 1 1 220 1 1 230 1 1 220 1 1 230 1 1 230 161 1 230 1 1
  230 1 1 230 1 1 230 1 1 230 1 1 230 1 1 230 1 1 220 1 1 230 10 1 220 25 1 230 1 1 230 1 1 230
  1 1 230 2 1 230 1 1 230 1 1 230 1 1 230 1 1 230 1 1 230 1 1 230 1 1 230 1 1 230 2 1 230 1 1
  230 1 1 230 2 1 230 1 1 230 1 1 230 1 1 230 1 1 230 44 1 220 1 1 220 1 1 220 61 1 230 1 1 220
  1 1 220 1 1 220 1 1 230 1 1 230 1 1 230 1 1 230 43 1 230 1 1 230 1 1 230 1 1 230 1 1 230 1 1
  220 1 1 220 1 1 220 1 1 220 1 1 220 1 1 230 1 1 230 1 1 230 1 1 230 1 1 230 1 1 230 1 1 230 1
  1 230 1 1 230 1 1 230 1 1 230 1 1 230 1 1 230 1 1 230 2 1 220 1 1 230 1 1 230 1 1 220 1 1 230
  1 1 230 1 1 220 1 1 230 1 1 230 1 1 230 1 1 220 1 1 220 1 1 220 1 1 27 1 1 28 1 1 29 1 1 230
  1 1 230 1 1 230 1 1 220 1 1 230 1 1 230 1 1 220 1 1 220 1 1 230 1 1 230 1 1 230 1 1 230 1 1
  230 61 1 7 17 1 9 4 1 230 1 1 220 1 1 230 1 1 230 104 1 7 17 1 9 49 1 230 62 1 7 17 1 9 111 1
  7 17 1 9 111 1 7 17 1 9 128 1 9 111 1 7 17 1 9 8 1 84 1 1 91 102 1 7 17 1 9 110 1 9 1 1 9 17
  1 9 125 1 9 110 1 103 1 1 103 1 1 9 14 1 107 1 1 107 1 1 107 1 1 107 109 1 118 1 1 118 1 1 9
  14 1 122 1 1 122 1 1 122 1 1 122 77 1 220 1 1 220 28 1 220 2 1 220 2 1 216 56 1 129 1 1 130 2
  1 132 6 1 130 1 1 130 1 1 130 1 1 130 3 1 130 2 1 230 1 1 230 1 1 9 2 1 230 1 1 230 63 1 220
  113 1 7 2 1 9 1 1 9 83 1 220 720 1 230 1 1 230 1 1 230 949 1 9 1 1 9 31 1 9 158 1 9 11 1 230
  204 1 228 144 1 222 1 1 230 1 1 220 220 1 230 1 1 220 72 1 9 21 1 230 1 1 230 1 1 230 1 1 230
  1 1 230 1 1 230 1 1 230 1 1 230 3 1 220 49 1 230 1 1 230 1 1 230 1 1 230 1 1 230 1 1 220 1 1
  220 1 1 220 1 1 220 1 1 220 1 1 220 1 1 230 1 1 230 1 1 220 2 1 220 1 1 220 1 1 230 1 1 230 1
  1 220 1 1 220 1 1 230 1 1 230 1 1 230 1 1 230 1 1 230 1 1 220 1 1 230 1 1 230 1 1 230 1 1 230
  102 1 7 16 1 9 39 1 230 1 1 220 1 1 230 1 1 230 1 1 230 1 1 230 1 1 230 1 1 230 1 1 230 55 1
  9 1 1 9 59 1 7 12 1 9 1 1 9 68 1 7 153 1 230 1 1 230 1 1 230 2 1 1 1 1 220 1 1 220 1 1 220 1
  1 220 1 1 220 1 1 230 1 1 230 1 1 220 1 1 220 1 1 220 1 1 220 1 1 230 2 1 1 1 1 1 1 1 1 1 1 1
  1 1 1 1 1 1 1 1 1 5 1 220 7 1 230 4 1 230 1 1 230 199 1 230 1 1 230 1 1 220 1 1 230 1 1 230 1
  1 230 1 1 230 1 1 230 1 1 230 1 1 230 1 1 220 1 1 230 1 1 230 1 1 234 1 1 214 1 1 220 1 1 202
  1 1 230 1 1 230 1 1 230 1 1 230 1 1 230 1 1 230 1 1 230 1 1 230 1 1 230 1 1 230 1 1 230 1 1
  230 1 1 230 1 1 230 1 1 230 1 1 230 1 1 230 1 1 230 1 1 230 1 1 230 1 1 230 1 1 230 1 1 230 1
  1 230 1 1 230 1 1 230 1 1 230 1 1 230 1 1 230 1 1 230 1 1 230 1 1 230 1 1 230 1 1 230 1 1 230
  1 1 230 1 1 230 1 1 232 1 1 228 1 1 228 1 1 220 1 1 218 1 1 230 1 1 233 1 1 220 1 1 230 1 1
  220 721 1 230 1 1 230 1 1 1 1 1 1 1 1 230 1 1 230 1 1 230 1 1 230 1 1 1 1 1 1 1 1 1 1 1 230 1
  1 230 5 1 230 4 1 1 1 1 1 1 1 230 1 1 220 1 1 230 1 1 1 1 1 1 1 1 220 1 1 220 1 1 220 1 1 220
  1 1 230 3071 1 230 1 1 230 1 1 230 142 1 9 97 1 230 1 1 230 1 1 230 1 1 230 1 1 230 1 1 230 1
  1 230 1 1 230 1 1 230 1 1 230 1 1 230 1 1 230 1 1 230 1 1 230 1 1 230 1 1 230 1 1 230 1 1 230
  1 1 230 1 1 230 1 1 230 1 1 230 1 1 230 1 1 230 1 1 230 1 1 230 1 1 230 1 1 230 1 1 230 1 1
  230 1 1 230 1 1 230 555 1 218 1 1 228 1 1 232 1 1 222 1 1 224 1 1 224 106 1 8 1 1 8 30165 1
  230 5 1 230 1 1 230 1 1 230 1 1 230 1 1 230 1 1 230 1 1 230 1 1 230 1 1 230 1 1 230 33 1 230
  1 1 230 81 1 230 1 1 230 277 1 9 38 1 9 152 1 9 28 1 230 1 1 230 1 1 230 1 1 230 1 1 230 1 1
  230 1 1 230 1 1 230 1 1 230 1 1 230 1 1 230 1 1 230 1 1 230 1 1 230 1 1 230 1 1 230 1 1 230 1
  1 230 58 1 220 1 1 220 1 1 220 38 1 9 96 1 7 13 1 9 240 1 230 2 1 230 1 1 230 1 1 220 3 1 230
  1 1 230 6 1 230 1 1 230 2 1 230 53 1 9 247 1 9 20273 1 26 770 1 230 1 1 230 1 1 230 1 1 230 1
  1 230 1 1 230 1 1 230 1 1 220 1 1 220 1 1 220 1 1 220 1 1 220 1 1 220 1 1 220 1 1 230 1 1 230
  974 1 220 227 1 220 150 1 230 1 1 230 1 1 230 1 1 230 1 1 230 1683 1 220 2 1 230 41 1 230 1 1
  1 1 1 220 5 1 9 166 1 230 1 1 220 574 1 230 1 1 230 1 1 230 1 1 230 388 1 230 1 1 230 81 1
  220 1 1 220 1 1 220 71 1 220 1 1 220 1 1 230 1 1 230 1 1 230 1 1 220 1 1 230 1 1 220 1 1 220
  1 1 220 1 1 220 50 1 230 1 1 220 1 1 230 1 1 220 193 1 9 42 1 9 15 1 9 58 1 9 1 1 7 70 1 230
  1 1 230 1 1 230 49 1 9 1 1 9 63 1 7 77 1 9 10 1 7 107 1 9 1 1 7 179 1 7 1 1 9 81 1 7 1 1 7 17
  1 9 25 1 230 1 1 230 1 1 230 1 1 230 1 1 230 1 1 230 1 1 230 4 1 230 1 1 230 1 1 230 1 1 230
  1 1 230 206 1 9 4 1 7 24 1 230 100 1 9 1 1 7 252 1 9 1 1 7 127 1 9 119 1 9 1 1 7 116 1 9 270
  1 9 1 1 7 259 1 9 1 1 9 5 1 7 157 1 9 84 1 9 19 1 9 82 1 9 422 1 9 259 1 7 2 1 9 1 1 9 82 1 9
  426 1 9 1 1 9 19374 1 1 1 1 1 1 1 1 1 1 1 1 1 1 60 1 230 1 1 230 1 1 230 1 1 230 1 1 230 1 1
  230 1 1 230 1210 1 6 1 1 6 19629 1 1 5319 1 216 1 1 216 1 1 1 1 1 1 1 1 1 4 1 226 1 1 216 1 1
  216 1 1 216 1 1 216 1 1 216 9 1 220 1 1 220 1 1 220 1 1 220 1 1 220 1 1 220 1 1 220 1 1 220 3
  1 230 1 1 230 1 1 230 1 1 230 1 1 230 1 1 220 1 1 220 31 1 230 1 1 230 1 1 230 1 1 230 149 1
  230 1 1 230 1 1 230 3516 1 230 1 1 230 1 1 230 1 1 230 1 1 230 1 1 230 1 1 230 2 1 230 1 1
  230 1 1 230 1 1 230 1 1 230 1 1 230 1 1 230 1 1 230 1 1 230 1 1 230 1 1 230 1 1 230 1 1 230 1
  1 230 1 1 230 1 1 230 1 1 230 3 1 230 1 1 230 1 1 230 1 1 230 1 1 230 1 1 230 1 1 230 2 1 230
  1 1 230 2 1 230 1 1 230 1 1 230 1 1 230 1 1 230 101 1 230 161 1 230 1 1 230 1 1 230 1 1 230 1
  1 230 1 1 230 1 1 230 376 1 230 62 1 230 1 1 230 1 1 230 1 1 230 509 1 232 1 1 232 1 1 220 1
  1 230 993 1 220 1 1 220 1 1 220 1 1 220 1 1 220 1 1 220 1 1 220 110 1 230 1 1 230 1 1 230 1 1
  230 1 1 230 1 1 230 1 1 7"

end Domain

end CleanupCourier
