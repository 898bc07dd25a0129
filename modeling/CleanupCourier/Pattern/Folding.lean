import CleanupCourier.Text.CodeTable

/-!
Characters that differ in case only, and the characters of words.
-/
namespace CleanupCourier

namespace Pattern

/-- For a character, the others that are the same but for case. -/
def caseVariants : CodeTable := CodeTable.ofSteps
  "65 1 97 1 1 98 1 1 99 1 1 100 1 1 101 1 1 102 1 1 103 1 1 104 1 1 105 1 1 106 1 2 107 8490 1
  1 108 1 1 109 1 1 110 1 1 111 1 1 112 1 1 113 1 1 114 1 2 115 383 1 1 116 1 1 117 1 1 118 1 1
  119 1 1 120 1 1 121 1 1 122 7 1 65 1 1 66 1 1 67 1 1 68 1 1 69 1 1 70 1 1 71 1 1 72 1 1 73 1
  1 74 1 2 75 8490 1 1 76 1 1 77 1 1 78 1 1 79 1 1 80 1 1 81 1 1 82 1 2 83 383 1 1 84 1 1 85 1
  1 86 1 1 87 1 1 88 1 1 89 1 1 90 59 2 924 956 11 1 224 1 1 225 1 1 226 1 1 227 1 1 228 1 2
  229 8491 1 1 230 1 1 231 1 1 232 1 1 233 1 1 234 1 1 235 1 1 236 1 1 237 1 1 238 1 1 239 1 1
  240 1 1 241 1 1 242 1 1 243 1 1 244 1 1 245 1 1 246 2 1 248 1 1 249 1 1 250 1 1 251 1 1 252 1
  1 253 1 1 254 1 1 7838 1 1 192 1 1 193 1 1 194 1 1 195 1 1 196 1 2 197 8491 1 1 198 1 1 199 1
  1 200 1 1 201 1 1 202 1 1 203 1 1 204 1 1 205 1 1 206 1 1 207 1 1 208 1 1 209 1 1 210 1 1 211
  1 1 212 1 1 213 1 1 214 2 1 216 1 1 217 1 1 218 1 1 219 1 1 220 1 1 221 1 1 222 1 1 376 1 1
  257 1 1 256 1 1 259 1 1 258 1 1 261 1 1 260 1 1 263 1 1 262 1 1 265 1 1 264 1 1 267 1 1 266 1
  1 269 1 1 268 1 1 271 1 1 270 1 1 273 1 1 272 1 1 275 1 1 274 1 1 277 1 1 276 1 1 279 1 1 278
  1 1 281 1 1 280 1 1 283 1 1 282 1 1 285 1 1 284 1 1 287 1 1 286 1 1 289 1 1 288 1 1 291 1 1
  290 1 1 293 1 1 292 1 1 295 1 1 294 1 1 297 1 1 296 1 1 299 1 1 298 1 1 301 1 1 300 1 1 303 1
  1 302 3 1 307 1 1 306 1 1 309 1 1 308 1 1 311 1 1 310 2 1 314 1 1 313 1 1 316 1 1 315 1 1 318
  1 1 317 1 1 320 1 1 319 1 1 322 1 1 321 1 1 324 1 1 323 1 1 326 1 1 325 1 1 328 1 1 327 2 1
  331 1 1 330 1 1 333 1 1 332 1 1 335 1 1 334 1 1 337 1 1 336 1 1 339 1 1 338 1 1 341 1 1 340 1
  1 343 1 1 342 1 1 345 1 1 344 1 1 347 1 1 346 1 1 349 1 1 348 1 1 351 1 1 350 1 1 353 1 1 352
  1 1 355 1 1 354 1 1 357 1 1 356 1 1 359 1 1 358 1 1 361 1 1 360 1 1 363 1 1 362 1 1 365 1 1
  364 1 1 367 1 1 366 1 1 369 1 1 368 1 1 371 1 1 370 1 1 373 1 1 372 1 1 375 1 1 374 1 1 255 1
  1 378 1 1 377 1 1 380 1 1 379 1 1 382 1 1 381 1 2 83 115 1 1 579 1 1 595 1 1 387 1 1 386 1 1
  389 1 1 388 1 1 596 1 1 392 1 1 391 1 1 598 1 1 599 1 1 396 1 1 395 2 1 477 1 1 601 1 1 603 1
  1 402 1 1 401 1 1 608 1 1 611 1 1 502 1 1 617 1 1 616 1 1 409 1 1 408 1 1 573 2 1 623 1 1 626
  1 1 544 1 1 629 1 1 417 1 1 416 1 1 419 1 1 418 1 1 421 1 1 420 1 1 640 1 1 424 1 1 423 1 1
  643 3 1 429 1 1 428 1 1 648 1 1 432 1 1 431 1 1 650 1 1 651 1 1 436 1 1 435 1 1 438 1 1 437 1
  1 658 1 1 441 1 1 440 3 1 445 1 1 444 2 1 503 5 2 453 454 1 2 452 454 1 2 452 453 1 2 456 457
  1 2 455 457 1 2 455 456 1 2 459 460 1 2 458 460 1 2 458 459 1 1 462 1 1 461 1 1 464 1 1 463 1
  1 466 1 1 465 1 1 468 1 1 467 1 1 470 1 1 469 1 1 472 1 1 471 1 1 474 1 1 473 1 1 476 1 1 475
  1 1 398 1 1 479 1 1 478 1 1 481 1 1 480 1 1 483 1 1 482 1 1 485 1 1 484 1 1 487 1 1 486 1 1
  489 1 1 488 1 1 491 1 1 490 1 1 493 1 1 492 1 1 495 1 1 494 2 2 498 499 1 2 497 499 1 2 497
  498 1 1 501 1 1 500 1 1 405 1 1 447 1 1 505 1 1 504 1 1 507 1 1 506 1 1 509 1 1 508 1 1 511 1
  1 510 1 1 513 1 1 512 1 1 515 1 1 514 1 1 517 1 1 516 1 1 519 1 1 518 1 1 521 1 1 520 1 1 523
  1 1 522 1 1 525 1 1 524 1 1 527 1 1 526 1 1 529 1 1 528 1 1 531 1 1 530 1 1 533 1 1 532 1 1
  535 1 1 534 1 1 537 1 1 536 1 1 539 1 1 538 1 1 541 1 1 540 1 1 543 1 1 542 1 1 414 2 1 547 1
  1 546 1 1 549 1 1 548 1 1 551 1 1 550 1 1 553 1 1 552 1 1 555 1 1 554 1 1 557 1 1 556 1 1 559
  1 1 558 1 1 561 1 1 560 1 1 563 1 1 562 7 1 11365 1 1 572 1 1 571 1 1 410 1 1 11366 1 1 11390
  1 1 11391 1 1 578 1 1 577 1 1 384 1 1 649 1 1 652 1 1 583 1 1 582 1 1 585 1 1 584 1 1 587 1 1
  586 1 1 589 1 1 588 1 1 591 1 1 590 1 1 11375 1 1 11373 1 1 11376 1 1 385 1 1 390 2 1 393 1 1
  394 2 1 399 2 1 400 1 1 42923 4 1 403 1 1 42924 2 1 404 2 1 42893 1 1 42922 2 1 407 1 1 406 1
  1 42926 1 1 11362 1 1 42925 3 1 412 2 1 11374 1 1 413 3 1 415 8 1 11364 3 1 422 2 1 42949 1 1
  425 4 1 42929 1 1 430 1 1 580 1 1 433 1 1 434 1 1 581 6 1 439 11 1 42930 1 1 42928 167 3 921
  953 8126 43 1 881 1 1 880 1 1 883 1 1 882 3 1 887 1 1 886 4 1 1021 1 1 1022 1 1 1023 2 1 1011
  7 1 940 2 1 941 1 1 942 1 1 943 2 1 972 2 1 973 1 1 974 2 1 945 1 2 946 976 1 1 947 1 1 948 1
  2 949 1013 1 1 950 1 1 951 1 3 952 977 1012 1 3 837 953 8126 1 2 954 1008 1 1 955 1 2 181 956
  1 1 957 1 1 958 1 1 959 1 2 960 982 1 2 961 1009 2 2 962 963 1 1 964 1 1 965 1 2 966 981 1 1
  967 1 1 968 1 2 969 8486 1 1 970 1 1 971 1 1 902 1 1 904 1 1 905 1 1 906 2 1 913 1 2 914 976
  1 1 915 1 1 916 1 2 917 1013 1 1 918 1 1 919 1 3 920 977 1012 1 3 837 921 8126 1 2 922 1008 1
  1 923 1 2 181 924 1 1 925 1 1 926 1 1 927 1 2 928 982 1 2 929 1009 1 2 931 963 1 2 931 962 1
  1 932 1 1 933 1 2 934 981 1 1 935 1 1 936 1 2 937 8486 1 1 938 1 1 939 1 1 908 1 1 910 1 1
  911 1 1 983 1 2 914 946 1 3 920 952 1012 4 2 934 966 1 2 928 960 1 1 975 1 1 985 1 1 984 1 1
  987 1 1 986 1 1 989 1 1 988 1 1 991 1 1 990 1 1 993 1 1 992 1 1 995 1 1 994 1 1 997 1 1 996 1
  1 999 1 1 998 1 1 1001 1 1 1000 1 1 1003 1 1 1002 1 1 1005 1 1 1004 1 1 1007 1 1 1006 1 2 922
  954 1 2 929 961 1 1 1017 1 1 895 1 3 920 952 977 1 2 917 949 2 1 1016 1 1 1015 1 1 1010 1 1
  1019 1 1 1018 2 1 891 1 1 892 1 1 893 1 1 1104 1 1 1105 1 1 1106 1 1 1107 1 1 1108 1 1 1109 1
  1 1110 1 1 1111 1 1 1112 1 1 1113 1 1 1114 1 1 1115 1 1 1116 1 1 1117 1 1 1118 1 1 1119 1 1
  1072 1 1 1073 1 2 1074 7296 1 1 1075 1 2 1076 7297 1 1 1077 1 1 1078 1 1 1079 1 1 1080 1 1
  1081 1 1 1082 1 1 1083 1 1 1084 1 1 1085 1 2 1086 7298 1 1 1087 1 1 1088 1 2 1089 7299 1 3
  1090 7300 7301 1 1 1091 1 1 1092 1 1 1093 1 1 1094 1 1 1095 1 1 1096 1 1 1097 1 2 1098 7302 1
  1 1099 1 1 1100 1 1 1101 1 1 1102 1 1 1103 1 1 1040 1 1 1041 1 2 1042 7296 1 1 1043 1 2 1044
  7297 1 1 1045 1 1 1046 1 1 1047 1 1 1048 1 1 1049 1 1 1050 1 1 1051 1 1 1052 1 1 1053 1 2
  1054 7298 1 1 1055 1 1 1056 1 2 1057 7299 1 3 1058 7300 7301 1 1 1059 1 1 1060 1 1 1061 1 1
  1062 1 1 1063 1 1 1064 1 1 1065 1 2 1066 7302 1 1 1067 1 1 1068 1 1 1069 1 1 1070 1 1 1071 1
  1 1024 1 1 1025 1 1 1026 1 1 1027 1 1 1028 1 1 1029 1 1 1030 1 1 1031 1 1 1032 1 1 1033 1 1
  1034 1 1 1035 1 1 1036 1 1 1037 1 1 1038 1 1 1039 1 1 1121 1 1 1120 1 2 1123 7303 1 2 1122
  7303 1 1 1125 1 1 1124 1 1 1127 1 1 1126 1 1 1129 1 1 1128 1 1 1131 1 1 1130 1 1 1133 1 1
  1132 1 1 1135 1 1 1134 1 1 1137 1 1 1136 1 1 1139 1 1 1138 1 1 1141 1 1 1140 1 1 1143 1 1
  1142 1 1 1145 1 1 1144 1 1 1147 1 1 1146 1 1 1149 1 1 1148 1 1 1151 1 1 1150 1 1 1153 1 1
  1152 9 1 1163 1 1 1162 1 1 1165 1 1 1164 1 1 1167 1 1 1166 1 1 1169 1 1 1168 1 1 1171 1 1
  1170 1 1 1173 1 1 1172 1 1 1175 1 1 1174 1 1 1177 1 1 1176 1 1 1179 1 1 1178 1 1 1181 1 1
  1180 1 1 1183 1 1 1182 1 1 1185 1 1 1184 1 1 1187 1 1 1186 1 1 1189 1 1 1188 1 1 1191 1 1
  1190 1 1 1193 1 1 1192 1 1 1195 1 1 1194 1 1 1197 1 1 1196 1 1 1199 1 1 1198 1 1 1201 1 1
  1200 1 1 1203 1 1 1202 1 1 1205 1 1 1204 1 1 1207 1 1 1206 1 1 1209 1 1 1208 1 1 1211 1 1
  1210 1 1 1213 1 1 1212 1 1 1215 1 1 1214 1 1 1231 1 1 1218 1 1 1217 1 1 1220 1 1 1219 1 1
  1222 1 1 1221 1 1 1224 1 1 1223 1 1 1226 1 1 1225 1 1 1228 1 1 1227 1 1 1230 1 1 1229 1 1
  1216 1 1 1233 1 1 1232 1 1 1235 1 1 1234 1 1 1237 1 1 1236 1 1 1239 1 1 1238 1 1 1241 1 1
  1240 1 1 1243 1 1 1242 1 1 1245 1 1 1244 1 1 1247 1 1 1246 1 1 1249 1 1 1248 1 1 1251 1 1
  1250 1 1 1253 1 1 1252 1 1 1255 1 1 1254 1 1 1257 1 1 1256 1 1 1259 1 1 1258 1 1 1261 1 1
  1260 1 1 1263 1 1 1262 1 1 1265 1 1 1264 1 1 1267 1 1 1266 1 1 1269 1 1 1268 1 1 1271 1 1
  1270 1 1 1273 1 1 1272 1 1 1275 1 1 1274 1 1 1277 1 1 1276 1 1 1279 1 1 1278 1 1 1281 1 1
  1280 1 1 1283 1 1 1282 1 1 1285 1 1 1284 1 1 1287 1 1 1286 1 1 1289 1 1 1288 1 1 1291 1 1
  1290 1 1 1293 1 1 1292 1 1 1295 1 1 1294 1 1 1297 1 1 1296 1 1 1299 1 1 1298 1 1 1301 1 1
  1300 1 1 1303 1 1 1302 1 1 1305 1 1 1304 1 1 1307 1 1 1306 1 1 1309 1 1 1308 1 1 1311 1 1
  1310 1 1 1313 1 1 1312 1 1 1315 1 1 1314 1 1 1317 1 1 1316 1 1 1319 1 1 1318 1 1 1321 1 1
  1320 1 1 1323 1 1 1322 1 1 1325 1 1 1324 1 1 1327 1 1 1326 2 1 1377 1 1 1378 1 1 1379 1 1
  1380 1 1 1381 1 1 1382 1 1 1383 1 1 1384 1 1 1385 1 1 1386 1 1 1387 1 1 1388 1 1 1389 1 1
  1390 1 1 1391 1 1 1392 1 1 1393 1 1 1394 1 1 1395 1 1 1396 1 1 1397 1 1 1398 1 1 1399 1 1
  1400 1 1 1401 1 1 1402 1 1 1403 1 1 1404 1 1 1405 1 1 1406 1 1 1407 1 1 1408 1 1 1409 1 1
  1410 1 1 1411 1 1 1412 1 1 1413 1 1 1414 11 1 1329 1 1 1330 1 1 1331 1 1 1332 1 1 1333 1 1
  1334 1 1 1335 1 1 1336 1 1 1337 1 1 1338 1 1 1339 1 1 1340 1 1 1341 1 1 1342 1 1 1343 1 1
  1344 1 1 1345 1 1 1346 1 1 1347 1 1 1348 1 1 1349 1 1 1350 1 1 1351 1 1 1352 1 1 1353 1 1
  1354 1 1 1355 1 1 1356 1 1 1357 1 1 1358 1 1 1359 1 1 1360 1 1 1361 1 1 1362 1 1 1363 1 1
  1364 1 1 1365 1 1 1366 2842 1 11520 1 1 11521 1 1 11522 1 1 11523 1 1 11524 1 1 11525 1 1
  11526 1 1 11527 1 1 11528 1 1 11529 1 1 11530 1 1 11531 1 1 11532 1 1 11533 1 1 11534 1 1
  11535 1 1 11536 1 1 11537 1 1 11538 1 1 11539 1 1 11540 1 1 11541 1 1 11542 1 1 11543 1 1
  11544 1 1 11545 1 1 11546 1 1 11547 1 1 11548 1 1 11549 1 1 11550 1 1 11551 1 1 11552 1 1
  11553 1 1 11554 1 1 11555 1 1 11556 1 1 11557 2 1 11559 6 1 11565 3 1 7312 1 1 7313 1 1 7314
  1 1 7315 1 1 7316 1 1 7317 1 1 7318 1 1 7319 1 1 7320 1 1 7321 1 1 7322 1 1 7323 1 1 7324 1 1
  7325 1 1 7326 1 1 7327 1 1 7328 1 1 7329 1 1 7330 1 1 7331 1 1 7332 1 1 7333 1 1 7334 1 1
  7335 1 1 7336 1 1 7337 1 1 7338 1 1 7339 1 1 7340 1 1 7341 1 1 7342 1 1 7343 1 1 7344 1 1
  7345 1 1 7346 1 1 7347 1 1 7348 1 1 7349 1 1 7350 1 1 7351 1 1 7352 1 1 7353 1 1 7354 3 1
  7357 1 1 7358 1 1 7359 673 1 43888 1 1 43889 1 1 43890 1 1 43891 1 1 43892 1 1 43893 1 1
  43894 1 1 43895 1 1 43896 1 1 43897 1 1 43898 1 1 43899 1 1 43900 1 1 43901 1 1 43902 1 1
  43903 1 1 43904 1 1 43905 1 1 43906 1 1 43907 1 1 43908 1 1 43909 1 1 43910 1 1 43911 1 1
  43912 1 1 43913 1 1 43914 1 1 43915 1 1 43916 1 1 43917 1 1 43918 1 1 43919 1 1 43920 1 1
  43921 1 1 43922 1 1 43923 1 1 43924 1 1 43925 1 1 43926 1 1 43927 1 1 43928 1 1 43929 1 1
  43930 1 1 43931 1 1 43932 1 1 43933 1 1 43934 1 1 43935 1 1 43936 1 1 43937 1 1 43938 1 1
  43939 1 1 43940 1 1 43941 1 1 43942 1 1 43943 1 1 43944 1 1 43945 1 1 43946 1 1 43947 1 1
  43948 1 1 43949 1 1 43950 1 1 43951 1 1 43952 1 1 43953 1 1 43954 1 1 43955 1 1 43956 1 1
  43957 1 1 43958 1 1 43959 1 1 43960 1 1 43961 1 1 43962 1 1 43963 1 1 43964 1 1 43965 1 1
  43966 1 1 43967 1 1 5112 1 1 5113 1 1 5114 1 1 5115 1 1 5116 1 1 5117 3 1 5104 1 1 5105 1 1
  5106 1 1 5107 1 1 5108 1 1 5109 2179 2 1042 1074 1 2 1044 1076 1 2 1054 1086 1 2 1057 1089 1
  3 1058 1090 7301 1 3 1058 1090 7300 1 2 1066 1098 1 2 1122 1123 1 2 42570 42571 8 1 4304 1 1
  4305 1 1 4306 1 1 4307 1 1 4308 1 1 4309 1 1 4310 1 1 4311 1 1 4312 1 1 4313 1 1 4314 1 1
  4315 1 1 4316 1 1 4317 1 1 4318 1 1 4319 1 1 4320 1 1 4321 1 1 4322 1 1 4323 1 1 4324 1 1
  4325 1 1 4326 1 1 4327 1 1 4328 1 1 4329 1 1 4330 1 1 4331 1 1 4332 1 1 4333 1 1 4334 1 1
  4335 1 1 4336 1 1 4337 1 1 4338 1 1 4339 1 1 4340 1 1 4341 1 1 4342 1 1 4343 1 1 4344 1 1
  4345 1 1 4346 3 1 4349 1 1 4350 1 1 4351 186 1 42877 4 1 11363 17 1 42950 114 1 7681 1 1 7680
  1 1 7683 1 1 7682 1 1 7685 1 1 7684 1 1 7687 1 1 7686 1 1 7689 1 1 7688 1 1 7691 1 1 7690 1 1
  7693 1 1 7692 1 1 7695 1 1 7694 1 1 7697 1 1 7696 1 1 7699 1 1 7698 1 1 7701 1 1 7700 1 1
  7703 1 1 7702 1 1 7705 1 1 7704 1 1 7707 1 1 7706 1 1 7709 1 1 7708 1 1 7711 1 1 7710 1 1
  7713 1 1 7712 1 1 7715 1 1 7714 1 1 7717 1 1 7716 1 1 7719 1 1 7718 1 1 7721 1 1 7720 1 1
  7723 1 1 7722 1 1 7725 1 1 7724 1 1 7727 1 1 7726 1 1 7729 1 1 7728 1 1 7731 1 1 7730 1 1
  7733 1 1 7732 1 1 7735 1 1 7734 1 1 7737 1 1 7736 1 1 7739 1 1 7738 1 1 7741 1 1 7740 1 1
  7743 1 1 7742 1 1 7745 1 1 7744 1 1 7747 1 1 7746 1 1 7749 1 1 7748 1 1 7751 1 1 7750 1 1
  7753 1 1 7752 1 1 7755 1 1 7754 1 1 7757 1 1 7756 1 1 7759 1 1 7758 1 1 7761 1 1 7760 1 1
  7763 1 1 7762 1 1 7765 1 1 7764 1 1 7767 1 1 7766 1 1 7769 1 1 7768 1 1 7771 1 1 7770 1 1
  7773 1 1 7772 1 1 7775 1 1 7774 1 2 7777 7835 1 2 7776 7835 1 1 7779 1 1 7778 1 1 7781 1 1
  7780 1 1 7783 1 1 7782 1 1 7785 1 1 7784 1 1 7787 1 1 7786 1 1 7789 1 1 7788 1 1 7791 1 1
  7790 1 1 7793 1 1 7792 1 1 7795 1 1 7794 1 1 7797 1 1 7796 1 1 7799 1 1 7798 1 1 7801 1 1
  7800 1 1 7803 1 1 7802 1 1 7805 1 1 7804 1 1 7807 1 1 7806 1 1 7809 1 1 7808 1 1 7811 1 1
  7810 1 1 7813 1 1 7812 1 1 7815 1 1 7814 1 1 7817 1 1 7816 1 1 7819 1 1 7818 1 1 7821 1 1
  7820 1 1 7823 1 1 7822 1 1 7825 1 1 7824 1 1 7827 1 1 7826 1 1 7829 1 1 7828 6 2 7776 7777 3
  1 223 2 1 7841 1 1 7840 1 1 7843 1 1 7842 1 1 7845 1 1 7844 1 1 7847 1 1 7846 1 1 7849 1 1
  7848 1 1 7851 1 1 7850 1 1 7853 1 1 7852 1 1 7855 1 1 7854 1 1 7857 1 1 7856 1 1 7859 1 1
  7858 1 1 7861 1 1 7860 1 1 7863 1 1 7862 1 1 7865 1 1 7864 1 1 7867 1 1 7866 1 1 7869 1 1
  7868 1 1 7871 1 1 7870 1 1 7873 1 1 7872 1 1 7875 1 1 7874 1 1 7877 1 1 7876 1 1 7879 1 1
  7878 1 1 7881 1 1 7880 1 1 7883 1 1 7882 1 1 7885 1 1 7884 1 1 7887 1 1 7886 1 1 7889 1 1
  7888 1 1 7891 1 1 7890 1 1 7893 1 1 7892 1 1 7895 1 1 7894 1 1 7897 1 1 7896 1 1 7899 1 1
  7898 1 1 7901 1 1 7900 1 1 7903 1 1 7902 1 1 7905 1 1 7904 1 1 7907 1 1 7906 1 1 7909 1 1
  7908 1 1 7911 1 1 7910 1 1 7913 1 1 7912 1 1 7915 1 1 7914 1 1 7917 1 1 7916 1 1 7919 1 1
  7918 1 1 7921 1 1 7920 1 1 7923 1 1 7922 1 1 7925 1 1 7924 1 1 7927 1 1 7926 1 1 7929 1 1
  7928 1 1 7931 1 1 7930 1 1 7933 1 1 7932 1 1 7935 1 1 7934 1 1 7944 1 1 7945 1 1 7946 1 1
  7947 1 1 7948 1 1 7949 1 1 7950 1 1 7951 1 1 7936 1 1 7937 1 1 7938 1 1 7939 1 1 7940 1 1
  7941 1 1 7942 1 1 7943 1 1 7960 1 1 7961 1 1 7962 1 1 7963 1 1 7964 1 1 7965 3 1 7952 1 1
  7953 1 1 7954 1 1 7955 1 1 7956 1 1 7957 3 1 7976 1 1 7977 1 1 7978 1 1 7979 1 1 7980 1 1
  7981 1 1 7982 1 1 7983 1 1 7968 1 1 7969 1 1 7970 1 1 7971 1 1 7972 1 1 7973 1 1 7974 1 1
  7975 1 1 7992 1 1 7993 1 1 7994 1 1 7995 1 1 7996 1 1 7997 1 1 7998 1 1 7999 1 1 7984 1 1
  7985 1 1 7986 1 1 7987 1 1 7988 1 1 7989 1 1 7990 1 1 7991 1 1 8008 1 1 8009 1 1 8010 1 1
  8011 1 1 8012 1 1 8013 3 1 8000 1 1 8001 1 1 8002 1 1 8003 1 1 8004 1 1 8005 4 1 8025 2 1
  8027 2 1 8029 2 1 8031 2 1 8017 2 1 8019 2 1 8021 2 1 8023 1 1 8040 1 1 8041 1 1 8042 1 1
  8043 1 1 8044 1 1 8045 1 1 8046 1 1 8047 1 1 8032 1 1 8033 1 1 8034 1 1 8035 1 1 8036 1 1
  8037 1 1 8038 1 1 8039 1 1 8122 1 1 8123 1 1 8136 1 1 8137 1 1 8138 1 1 8139 1 1 8154 1 1
  8155 1 1 8184 1 1 8185 1 1 8170 1 1 8171 1 1 8186 1 1 8187 3 1 8072 1 1 8073 1 1 8074 1 1
  8075 1 1 8076 1 1 8077 1 1 8078 1 1 8079 1 1 8064 1 1 8065 1 1 8066 1 1 8067 1 1 8068 1 1
  8069 1 1 8070 1 1 8071 1 1 8088 1 1 8089 1 1 8090 1 1 8091 1 1 8092 1 1 8093 1 1 8094 1 1
  8095 1 1 8080 1 1 8081 1 1 8082 1 1 8083 1 1 8084 1 1 8085 1 1 8086 1 1 8087 1 1 8104 1 1
  8105 1 1 8106 1 1 8107 1 1 8108 1 1 8109 1 1 8110 1 1 8111 1 1 8096 1 1 8097 1 1 8098 1 1
  8099 1 1 8100 1 1 8101 1 1 8102 1 1 8103 1 1 8120 1 1 8121 2 1 8124 5 1 8112 1 1 8113 1 1
  8048 1 1 8049 1 1 8115 2 3 837 921 953 5 1 8140 5 1 8050 1 1 8051 1 1 8052 1 1 8053 1 1 8131
  4 1 8152 1 1 8153 7 1 8144 1 1 8145 1 1 8054 1 1 8055 5 1 8168 1 1 8169 4 1 8172 3 1 8160 1 1
  8161 1 1 8058 1 1 8059 1 1 8165 7 1 8188 5 1 8056 1 1 8057 1 1 8060 1 1 8061 1 1 8179 298 2
  937 969 4 2 75 107 1 2 197 229 7 1 8526 28 1 8498 18 1 8560 1 1 8561 1 1 8562 1 1 8563 1 1
  8564 1 1 8565 1 1 8566 1 1 8567 1 1 8568 1 1 8569 1 1 8570 1 1 8571 1 1 8572 1 1 8573 1 1
  8574 1 1 8575 1 1 8544 1 1 8545 1 1 8546 1 1 8547 1 1 8548 1 1 8549 1 1 8550 1 1 8551 1 1
  8552 1 1 8553 1 1 8554 1 1 8555 1 1 8556 1 1 8557 1 1 8558 1 1 8559 4 1 8580 1 1 8579 818 1
  9424 1 1 9425 1 1 9426 1 1 9427 1 1 9428 1 1 9429 1 1 9430 1 1 9431 1 1 9432 1 1 9433 1 1
  9434 1 1 9435 1 1 9436 1 1 9437 1 1 9438 1 1 9439 1 1 9440 1 1 9441 1 1 9442 1 1 9443 1 1
  9444 1 1 9445 1 1 9446 1 1 9447 1 1 9448 1 1 9449 1 1 9398 1 1 9399 1 1 9400 1 1 9401 1 1
  9402 1 1 9403 1 1 9404 1 1 9405 1 1 9406 1 1 9407 1 1 9408 1 1 9409 1 1 9410 1 1 9411 1 1
  9412 1 1 9413 1 1 9414 1 1 9415 1 1 9416 1 1 9417 1 1 9418 1 1 9419 1 1 9420 1 1 9421 1 1
  9422 1 1 9423 1815 1 11312 1 1 11313 1 1 11314 1 1 11315 1 1 11316 1 1 11317 1 1 11318 1 1
  11319 1 1 11320 1 1 11321 1 1 11322 1 1 11323 1 1 11324 1 1 11325 1 1 11326 1 1 11327 1 1
  11328 1 1 11329 1 1 11330 1 1 11331 1 1 11332 1 1 11333 1 1 11334 1 1 11335 1 1 11336 1 1
  11337 1 1 11338 1 1 11339 1 1 11340 1 1 11341 1 1 11342 1 1 11343 1 1 11344 1 1 11345 1 1
  11346 1 1 11347 1 1 11348 1 1 11349 1 1 11350 1 1 11351 1 1 11352 1 1 11353 1 1 11354 1 1
  11355 1 1 11356 1 1 11357 1 1 11358 1 1 11359 1 1 11264 1 1 11265 1 1 11266 1 1 11267 1 1
  11268 1 1 11269 1 1 11270 1 1 11271 1 1 11272 1 1 11273 1 1 11274 1 1 11275 1 1 11276 1 1
  11277 1 1 11278 1 1 11279 1 1 11280 1 1 11281 1 1 11282 1 1 11283 1 1 11284 1 1 11285 1 1
  11286 1 1 11287 1 1 11288 1 1 11289 1 1 11290 1 1 11291 1 1 11292 1 1 11293 1 1 11294 1 1
  11295 1 1 11296 1 1 11297 1 1 11298 1 1 11299 1 1 11300 1 1 11301 1 1 11302 1 1 11303 1 1
  11304 1 1 11305 1 1 11306 1 1 11307 1 1 11308 1 1 11309 1 1 11310 1 1 11311 1 1 11361 1 1
  11360 1 1 619 1 1 7549 1 1 637 1 1 570 1 1 574 1 1 11368 1 1 11367 1 1 11370 1 1 11369 1 1
  11372 1 1 11371 1 1 593 1 1 625 1 1 592 1 1 594 2 1 11379 1 1 11378 2 1 11382 1 1 11381 8 1
  575 1 1 576 1 1 11393 1 1 11392 1 1 11395 1 1 11394 1 1 11397 1 1 11396 1 1 11399 1 1 11398 1
  1 11401 1 1 11400 1 1 11403 1 1 11402 1 1 11405 1 1 11404 1 1 11407 1 1 11406 1 1 11409 1 1
  11408 1 1 11411 1 1 11410 1 1 11413 1 1 11412 1 1 11415 1 1 11414 1 1 11417 1 1 11416 1 1
  11419 1 1 11418 1 1 11421 1 1 11420 1 1 11423 1 1 11422 1 1 11425 1 1 11424 1 1 11427 1 1
  11426 1 1 11429 1 1 11428 1 1 11431 1 1 11430 1 1 11433 1 1 11432 1 1 11435 1 1 11434 1 1
  11437 1 1 11436 1 1 11439 1 1 11438 1 1 11441 1 1 11440 1 1 11443 1 1 11442 1 1 11445 1 1
  11444 1 1 11447 1 1 11446 1 1 11449 1 1 11448 1 1 11451 1 1 11450 1 1 11453 1 1 11452 1 1
  11455 1 1 11454 1 1 11457 1 1 11456 1 1 11459 1 1 11458 1 1 11461 1 1 11460 1 1 11463 1 1
  11462 1 1 11465 1 1 11464 1 1 11467 1 1 11466 1 1 11469 1 1 11468 1 1 11471 1 1 11470 1 1
  11473 1 1 11472 1 1 11475 1 1 11474 1 1 11477 1 1 11476 1 1 11479 1 1 11478 1 1 11481 1 1
  11480 1 1 11483 1 1 11482 1 1 11485 1 1 11484 1 1 11487 1 1 11486 1 1 11489 1 1 11488 1 1
  11491 1 1 11490 8 1 11500 1 1 11499 1 1 11502 1 1 11501 4 1 11507 1 1 11506 13 1 4256 1 1
  4257 1 1 4258 1 1 4259 1 1 4260 1 1 4261 1 1 4262 1 1 4263 1 1 4264 1 1 4265 1 1 4266 1 1
  4267 1 1 4268 1 1 4269 1 1 4270 1 1 4271 1 1 4272 1 1 4273 1 1 4274 1 1 4275 1 1 4276 1 1
  4277 1 1 4278 1 1 4279 1 1 4280 1 1 4281 1 1 4282 1 1 4283 1 1 4284 1 1 4285 1 1 4286 1 1
  4287 1 1 4288 1 1 4289 1 1 4290 1 1 4291 1 1 4292 1 1 4293 2 1 4295 6 1 4301 30995 1 42561 1
  1 42560 1 1 42563 1 1 42562 1 1 42565 1 1 42564 1 1 42567 1 1 42566 1 1 42569 1 1 42568 1 2
  7304 42571 1 2 7304 42570 1 1 42573 1 1 42572 1 1 42575 1 1 42574 1 1 42577 1 1 42576 1 1
  42579 1 1 42578 1 1 42581 1 1 42580 1 1 42583 1 1 42582 1 1 42585 1 1 42584 1 1 42587 1 1
  42586 1 1 42589 1 1 42588 1 1 42591 1 1 42590 1 1 42593 1 1 42592 1 1 42595 1 1 42594 1 1
  42597 1 1 42596 1 1 42599 1 1 42598 1 1 42601 1 1 42600 1 1 42603 1 1 42602 1 1 42605 1 1
  42604 19 1 42625 1 1 42624 1 1 42627 1 1 42626 1 1 42629 1 1 42628 1 1 42631 1 1 42630 1 1
  42633 1 1 42632 1 1 42635 1 1 42634 1 1 42637 1 1 42636 1 1 42639 1 1 42638 1 1 42641 1 1
  42640 1 1 42643 1 1 42642 1 1 42645 1 1 42644 1 1 42647 1 1 42646 1 1 42649 1 1 42648 1 1
  42651 1 1 42650 135 1 42787 1 1 42786 1 1 42789 1 1 42788 1 1 42791 1 1 42790 1 1 42793 1 1
  42792 1 1 42795 1 1 42794 1 1 42797 1 1 42796 1 1 42799 1 1 42798 3 1 42803 1 1 42802 1 1
  42805 1 1 42804 1 1 42807 1 1 42806 1 1 42809 1 1 42808 1 1 42811 1 1 42810 1 1 42813 1 1
  42812 1 1 42815 1 1 42814 1 1 42817 1 1 42816 1 1 42819 1 1 42818 1 1 42821 1 1 42820 1 1
  42823 1 1 42822 1 1 42825 1 1 42824 1 1 42827 1 1 42826 1 1 42829 1 1 42828 1 1 42831 1 1
  42830 1 1 42833 1 1 42832 1 1 42835 1 1 42834 1 1 42837 1 1 42836 1 1 42839 1 1 42838 1 1
  42841 1 1 42840 1 1 42843 1 1 42842 1 1 42845 1 1 42844 1 1 42847 1 1 42846 1 1 42849 1 1
  42848 1 1 42851 1 1 42850 1 1 42853 1 1 42852 1 1 42855 1 1 42854 1 1 42857 1 1 42856 1 1
  42859 1 1 42858 1 1 42861 1 1 42860 1 1 42863 1 1 42862 10 1 42874 1 1 42873 1 1 42876 1 1
  42875 1 1 7545 1 1 42879 1 1 42878 1 1 42881 1 1 42880 1 1 42883 1 1 42882 1 1 42885 1 1
  42884 1 1 42887 1 1 42886 4 1 42892 1 1 42891 1 1 613 3 1 42897 1 1 42896 1 1 42899 1 1 42898
  1 1 42948 2 1 42903 1 1 42902 1 1 42905 1 1 42904 1 1 42907 1 1 42906 1 1 42909 1 1 42908 1 1
  42911 1 1 42910 1 1 42913 1 1 42912 1 1 42915 1 1 42914 1 1 42917 1 1 42916 1 1 42919 1 1
  42918 1 1 42921 1 1 42920 1 1 614 1 1 604 1 1 609 1 1 620 1 1 618 2 1 670 1 1 647 1 1 669 1 1
  43859 1 1 42933 1 1 42932 1 1 42935 1 1 42934 1 1 42937 1 1 42936 1 1 42939 1 1 42938 1 1
  42941 1 1 42940 1 1 42943 1 1 42942 1 1 42945 1 1 42944 1 1 42947 1 1 42946 1 1 42900 1 1 642
  1 1 7566 1 1 42952 1 1 42951 1 1 42954 1 1 42953 6 1 42961 1 1 42960 5 1 42967 1 1 42966 1 1
  42969 1 1 42968 28 1 42998 1 1 42997 861 1 42931 29 1 5024 1 1 5025 1 1 5026 1 1 5027 1 1
  5028 1 1 5029 1 1 5030 1 1 5031 1 1 5032 1 1 5033 1 1 5034 1 1 5035 1 1 5036 1 1 5037 1 1
  5038 1 1 5039 1 1 5040 1 1 5041 1 1 5042 1 1 5043 1 1 5044 1 1 5045 1 1 5046 1 1 5047 1 1
  5048 1 1 5049 1 1 5050 1 1 5051 1 1 5052 1 1 5053 1 1 5054 1 1 5055 1 1 5056 1 1 5057 1 1
  5058 1 1 5059 1 1 5060 1 1 5061 1 1 5062 1 1 5063 1 1 5064 1 1 5065 1 1 5066 1 1 5067 1 1
  5068 1 1 5069 1 1 5070 1 1 5071 1 1 5072 1 1 5073 1 1 5074 1 1 5075 1 1 5076 1 1 5077 1 1
  5078 1 1 5079 1 1 5080 1 1 5081 1 1 5082 1 1 5083 1 1 5084 1 1 5085 1 1 5086 1 1 5087 1 1
  5088 1 1 5089 1 1 5090 1 1 5091 1 1 5092 1 1 5093 1 1 5094 1 1 5095 1 1 5096 1 1 5097 1 1
  5098 1 1 5099 1 1 5100 1 1 5101 1 1 5102 1 1 5103 21346 1 65345 1 1 65346 1 1 65347 1 1 65348
  1 1 65349 1 1 65350 1 1 65351 1 1 65352 1 1 65353 1 1 65354 1 1 65355 1 1 65356 1 1 65357 1 1
  65358 1 1 65359 1 1 65360 1 1 65361 1 1 65362 1 1 65363 1 1 65364 1 1 65365 1 1 65366 1 1
  65367 1 1 65368 1 1 65369 1 1 65370 7 1 65313 1 1 65314 1 1 65315 1 1 65316 1 1 65317 1 1
  65318 1 1 65319 1 1 65320 1 1 65321 1 1 65322 1 1 65323 1 1 65324 1 1 65325 1 1 65326 1 1
  65327 1 1 65328 1 1 65329 1 1 65330 1 1 65331 1 1 65332 1 1 65333 1 1 65334 1 1 65335 1 1
  65336 1 1 65337 1 1 65338 1190 1 66600 1 1 66601 1 1 66602 1 1 66603 1 1 66604 1 1 66605 1 1
  66606 1 1 66607 1 1 66608 1 1 66609 1 1 66610 1 1 66611 1 1 66612 1 1 66613 1 1 66614 1 1
  66615 1 1 66616 1 1 66617 1 1 66618 1 1 66619 1 1 66620 1 1 66621 1 1 66622 1 1 66623 1 1
  66624 1 1 66625 1 1 66626 1 1 66627 1 1 66628 1 1 66629 1 1 66630 1 1 66631 1 1 66632 1 1
  66633 1 1 66634 1 1 66635 1 1 66636 1 1 66637 1 1 66638 1 1 66639 1 1 66560 1 1 66561 1 1
  66562 1 1 66563 1 1 66564 1 1 66565 1 1 66566 1 1 66567 1 1 66568 1 1 66569 1 1 66570 1 1
  66571 1 1 66572 1 1 66573 1 1 66574 1 1 66575 1 1 66576 1 1 66577 1 1 66578 1 1 66579 1 1
  66580 1 1 66581 1 1 66582 1 1 66583 1 1 66584 1 1 66585 1 1 66586 1 1 66587 1 1 66588 1 1
  66589 1 1 66590 1 1 66591 1 1 66592 1 1 66593 1 1 66594 1 1 66595 1 1 66596 1 1 66597 1 1
  66598 1 1 66599 97 1 66776 1 1 66777 1 1 66778 1 1 66779 1 1 66780 1 1 66781 1 1 66782 1 1
  66783 1 1 66784 1 1 66785 1 1 66786 1 1 66787 1 1 66788 1 1 66789 1 1 66790 1 1 66791 1 1
  66792 1 1 66793 1 1 66794 1 1 66795 1 1 66796 1 1 66797 1 1 66798 1 1 66799 1 1 66800 1 1
  66801 1 1 66802 1 1 66803 1 1 66804 1 1 66805 1 1 66806 1 1 66807 1 1 66808 1 1 66809 1 1
  66810 1 1 66811 5 1 66736 1 1 66737 1 1 66738 1 1 66739 1 1 66740 1 1 66741 1 1 66742 1 1
  66743 1 1 66744 1 1 66745 1 1 66746 1 1 66747 1 1 66748 1 1 66749 1 1 66750 1 1 66751 1 1
  66752 1 1 66753 1 1 66754 1 1 66755 1 1 66756 1 1 66757 1 1 66758 1 1 66759 1 1 66760 1 1
  66761 1 1 66762 1 1 66763 1 1 66764 1 1 66765 1 1 66766 1 1 66767 1 1 66768 1 1 66769 1 1
  66770 1 1 66771 117 1 66967 1 1 66968 1 1 66969 1 1 66970 1 1 66971 1 1 66972 1 1 66973 1 1
  66974 1 1 66975 1 1 66976 1 1 66977 2 1 66979 1 1 66980 1 1 66981 1 1 66982 1 1 66983 1 1
  66984 1 1 66985 1 1 66986 1 1 66987 1 1 66988 1 1 66989 1 1 66990 1 1 66991 1 1 66992 1 1
  66993 2 1 66995 1 1 66996 1 1 66997 1 1 66998 1 1 66999 1 1 67000 1 1 67001 2 1 67003 1 1
  67004 2 1 66928 1 1 66929 1 1 66930 1 1 66931 1 1 66932 1 1 66933 1 1 66934 1 1 66935 1 1
  66936 1 1 66937 1 1 66938 2 1 66940 1 1 66941 1 1 66942 1 1 66943 1 1 66944 1 1 66945 1 1
  66946 1 1 66947 1 1 66948 1 1 66949 1 1 66950 1 1 66951 1 1 66952 1 1 66953 1 1 66954 2 1
  66956 1 1 66957 1 1 66958 1 1 66959 1 1 66960 1 1 66961 1 1 66962 2 1 66964 1 1 66965 1732 1
  68800 1 1 68801 1 1 68802 1 1 68803 1 1 68804 1 1 68805 1 1 68806 1 1 68807 1 1 68808 1 1
  68809 1 1 68810 1 1 68811 1 1 68812 1 1 68813 1 1 68814 1 1 68815 1 1 68816 1 1 68817 1 1
  68818 1 1 68819 1 1 68820 1 1 68821 1 1 68822 1 1 68823 1 1 68824 1 1 68825 1 1 68826 1 1
  68827 1 1 68828 1 1 68829 1 1 68830 1 1 68831 1 1 68832 1 1 68833 1 1 68834 1 1 68835 1 1
  68836 1 1 68837 1 1 68838 1 1 68839 1 1 68840 1 1 68841 1 1 68842 1 1 68843 1 1 68844 1 1
  68845 1 1 68846 1 1 68847 1 1 68848 1 1 68849 1 1 68850 14 1 68736 1 1 68737 1 1 68738 1 1
  68739 1 1 68740 1 1 68741 1 1 68742 1 1 68743 1 1 68744 1 1 68745 1 1 68746 1 1 68747 1 1
  68748 1 1 68749 1 1 68750 1 1 68751 1 1 68752 1 1 68753 1 1 68754 1 1 68755 1 1 68756 1 1
  68757 1 1 68758 1 1 68759 1 1 68760 1 1 68761 1 1 68762 1 1 68763 1 1 68764 1 1 68765 1 1
  68766 1 1 68767 1 1 68768 1 1 68769 1 1 68770 1 1 68771 1 1 68772 1 1 68773 1 1 68774 1 1
  68775 1 1 68776 1 1 68777 1 1 68778 1 1 68779 1 1 68780 1 1 68781 1 1 68782 1 1 68783 1 1
  68784 1 1 68785 1 1 68786 2990 1 71872 1 1 71873 1 1 71874 1 1 71875 1 1 71876 1 1 71877 1 1
  71878 1 1 71879 1 1 71880 1 1 71881 1 1 71882 1 1 71883 1 1 71884 1 1 71885 1 1 71886 1 1
  71887 1 1 71888 1 1 71889 1 1 71890 1 1 71891 1 1 71892 1 1 71893 1 1 71894 1 1 71895 1 1
  71896 1 1 71897 1 1 71898 1 1 71899 1 1 71900 1 1 71901 1 1 71902 1 1 71903 1 1 71840 1 1
  71841 1 1 71842 1 1 71843 1 1 71844 1 1 71845 1 1 71846 1 1 71847 1 1 71848 1 1 71849 1 1
  71850 1 1 71851 1 1 71852 1 1 71853 1 1 71854 1 1 71855 1 1 71856 1 1 71857 1 1 71858 1 1
  71859 1 1 71860 1 1 71861 1 1 71862 1 1 71863 1 1 71864 1 1 71865 1 1 71866 1 1 71867 1 1
  71868 1 1 71869 1 1 71870 1 1 71871 21857 1 93792 1 1 93793 1 1 93794 1 1 93795 1 1 93796 1 1
  93797 1 1 93798 1 1 93799 1 1 93800 1 1 93801 1 1 93802 1 1 93803 1 1 93804 1 1 93805 1 1
  93806 1 1 93807 1 1 93808 1 1 93809 1 1 93810 1 1 93811 1 1 93812 1 1 93813 1 1 93814 1 1
  93815 1 1 93816 1 1 93817 1 1 93818 1 1 93819 1 1 93820 1 1 93821 1 1 93822 1 1 93823 1 1
  93760 1 1 93761 1 1 93762 1 1 93763 1 1 93764 1 1 93765 1 1 93766 1 1 93767 1 1 93768 1 1
  93769 1 1 93770 1 1 93771 1 1 93772 1 1 93773 1 1 93774 1 1 93775 1 1 93776 1 1 93777 1 1
  93778 1 1 93779 1 1 93780 1 1 93781 1 1 93782 1 1 93783 1 1 93784 1 1 93785 1 1 93786 1 1
  93787 1 1 93788 1 1 93789 1 1 93790 1 1 93791 31361 1 125218 1 1 125219 1 1 125220 1 1 125221
  1 1 125222 1 1 125223 1 1 125224 1 1 125225 1 1 125226 1 1 125227 1 1 125228 1 1 125229 1 1
  125230 1 1 125231 1 1 125232 1 1 125233 1 1 125234 1 1 125235 1 1 125236 1 1 125237 1 1
  125238 1 1 125239 1 1 125240 1 1 125241 1 1 125242 1 1 125243 1 1 125244 1 1 125245 1 1
  125246 1 1 125247 1 1 125248 1 1 125249 1 1 125250 1 1 125251 1 1 125184 1 1 125185 1 1
  125186 1 1 125187 1 1 125188 1 1 125189 1 1 125190 1 1 125191 1 1 125192 1 1 125193 1 1
  125194 1 1 125195 1 1 125196 1 1 125197 1 1 125198 1 1 125199 1 1 125200 1 1 125201 1 1
  125202 1 1 125203 1 1 125204 1 1 125205 1 1 125206 1 1 125207 1 1 125208 1 1 125209 1 1
  125210 1 1 125211 1 1 125212 1 1 125213 1 1 125214 1 1 125215 1 1 125216 1 1 125217"

/-- Letters, marks, decimal digits, connectors and joiners. -/
def wordChars : CodeRanges := CodeRanges.ofSteps
  "48 10 7 26 4 1 1 26 47 1 10 1 4 1 5 23 1 31 1 458 4 12 14 5 7 1 1 1 17 117 1 2 2 4 1 1 6 1 1
  3 1 1 1 20 1 83 1 139 1 173 1 38 2 1 6 41 8 45 1 1 1 2 1 2 1 1 8 27 4 4 29 11 5 74 4 102 1 8
  2 10 1 19 2 1 16 59 2 101 14 54 4 1 2 1 2 46 18 28 4 11 5 24 1 6 9 74 1 129 2 10 1 19 1 8 2 2
  2 22 1 7 1 1 3 4 2 9 2 2 2 4 8 1 4 2 1 5 2 12 10 1 1 1 2 3 1 6 4 2 2 22 1 7 1 2 1 2 1 2 2 1 1
  5 4 2 2 3 3 1 7 4 1 1 7 16 11 3 1 9 1 3 1 22 1 7 1 2 1 5 2 10 1 3 1 3 2 1 15 4 2 10 9 7 1 3 1
  8 2 2 2 22 1 7 1 2 1 5 2 9 2 2 2 3 7 3 4 2 1 5 2 10 1 1 16 2 1 6 3 3 1 4 3 2 1 1 1 2 3 2 3 3
  3 12 4 5 3 3 1 4 2 1 6 1 14 10 16 13 1 3 1 23 1 16 2 9 1 3 1 4 7 2 1 3 2 1 2 4 2 10 16 4 1 8
  1 3 1 23 1 10 1 5 2 9 1 3 1 4 7 2 6 2 1 4 2 10 1 3 12 13 1 3 1 51 1 3 1 5 5 4 7 5 2 10 10 6 1
  3 1 18 3 24 1 9 1 1 2 7 3 1 4 6 1 1 1 8 6 10 2 2 13 58 5 15 1 10 39 2 1 1 1 5 1 24 1 1 1 23 2
  5 1 1 1 7 1 10 2 4 32 1 23 2 6 10 11 1 1 1 1 1 4 10 1 36 4 20 1 18 1 36 9 1 57 74 6 78 2 38 1
  1 5 1 2 43 1 333 1 4 2 7 1 1 1 4 2 41 1 4 2 33 1 4 2 7 1 1 1 4 2 15 1 57 1 4 2 67 2 3 32 16
  16 86 2 6 3 620 2 17 1 26 5 75 3 11 7 22 9 22 11 20 12 13 1 3 1 2 12 84 3 1 4 2 2 10 33 3 1
  11 6 89 7 43 5 70 10 31 1 12 4 12 10 40 2 5 11 44 4 26 6 10 38 28 4 63 1 29 2 11 6 10 13 1 8
  31 49 77 3 10 17 9 12 116 12 56 8 10 3 49 2 9 7 43 2 3 16 3 1 39 5 534 2 6 2 38 2 6 2 8 1 1 1
  1 1 1 1 31 2 53 1 7 1 1 3 3 1 7 3 4 2 6 4 13 5 3 1 7 15 2 49 2 19 1 28 1 13 1 16 13 51 33 17
  1 4 1 2 10 1 1 3 5 6 1 1 1 1 1 1 4 1 11 2 4 5 5 4 1 17 41 813 52 1814 229 6 9 12 38 1 1 5 1 2
  56 7 1 15 24 9 7 1 7 1 7 1 7 1 7 1 7 1 7 1 7 1 32 47 1 469 3 25 15 1 5 2 5 4 86 2 2 2 3 1 90
  1 4 5 43 1 94 17 32 48 16 512 6592 64 22157 67 46 2 269 3 28 20 51 1 10 1 115 37 9 2 103 2 64
  5 2 1 1 1 5 24 54 4 1 19 52 12 70 10 10 6 24 3 1 1 49 2 36 12 29 3 65 14 11 6 31 1 55 9 14 2
  10 6 23 3 73 24 3 2 16 2 5 10 6 2 6 2 6 9 7 1 7 1 43 1 14 6 123 1 2 2 10 6 11172 12 23 4 49
  8452 366 2 106 38 7 12 5 5 12 1 13 1 5 1 1 1 2 1 2 1 108 33 363 18 64 2 54 40 12 4 16 16 16 3
  2 24 3 32 5 1 135 19 10 7 26 4 1 1 26 11 89 3 6 2 6 2 6 2 3 35 12 1 26 1 19 1 2 1 15 2 14 34
  123 69 53 136 1 130 29 3 49 15 1 31 32 13 30 5 43 5 30 2 36 4 8 1 5 42 158 2 10 6 36 4 36 4
  40 8 52 12 11 1 15 1 7 1 2 1 11 1 15 1 7 1 2 67 311 9 22 10 8 24 6 1 42 1 9 69 6 2 1 1 44 1 2
  3 1 2 23 10 23 9 31 65 19 1 2 10 22 10 26 70 56 6 2 64 4 1 2 5 8 1 3 1 29 2 3 4 1 32 29 3 29
  35 8 1 30 25 54 10 22 10 19 13 18 110 73 55 51 13 51 13 40 8 10 326 42 1 2 3 2 75 32 10 1 8
  33 31 22 42 21 27 23 9 71 31 16 9 60 7 1 13 25 7 10 6 53 1 10 4 4 8 36 2 1 9 69 4 4 1 13 1 1
  35 18 1 37 6 4 62 7 1 1 1 4 1 15 1 10 7 59 5 10 6 4 1 8 2 2 2 22 1 7 1 2 1 5 1 10 2 2 2 3 2 1
  6 1 5 7 2 7 3 5 139 75 5 10 4 4 30 70 1 1 8 10 166 54 2 9 23 6 34 65 3 1 11 10 38 57 7 10 54
  27 2 15 4 10 6 7 185 59 101 74 21 8 2 1 2 8 1 2 1 30 1 2 2 9 12 10 70 8 2 46 2 8 1 2 27 63 8
  1 8 74 3 1 18 73 263 9 1 45 1 9 15 10 24 30 2 22 1 14 73 7 1 2 1 44 3 1 1 2 1 9 8 10 6 6 1 2
  1 37 1 2 1 6 7 10 310 23 9 17 1 41 3 5 13 10 86 1 79 922 102 111 17 196 2636 97 15 1072 16 22
  4010 583 8633 569 7 31 1 10 6 79 1 10 6 30 2 5 11 55 9 4 12 10 9 21 5 19 688 64 128 75 4 57 7
  17 64 2 1 2 11 2 14 6136 8 1238 42 9 8935 4 1 7 1 2 1 291 15 1 29 3 2 1 14 4 8 396 2308 107 5
  13 3 9 7 10 3 2 4705 46 2 23 542 5 3 6 8 8 2 7 30 4 148 3 443 85 1 71 1 2 2 1 2 2 2 4 1 12 1
  1 1 7 1 65 1 4 2 8 1 7 1 28 1 4 1 5 1 1 3 7 1 340 2 25 1 25 1 31 1 25 1 31 1 25 1 31 1 25 1
  31 1 25 1 8 2 50 512 55 4 50 8 1 14 1 22 5 1 15 1104 31 6 6 213 7 1 17 2 7 1 2 1 5 5 62 33 1
  112 45 3 14 2 10 4 1 321 31 17 58 470 42 742 7 1 4 1 2 1 15 1 197 11 7 41 76 4 10 1190 4 1 27
  1 2 1 1 2 1 1 10 1 4 1 1 1 1 6 1 4 1 1 1 1 1 1 3 1 2 1 1 2 1 1 1 1 1 1 1 1 1 1 2 1 1 2 4 1 7
  1 4 1 4 1 1 1 10 1 17 5 3 1 5 1 17 628 26 6 26 6 26 2662 10 1030 42720 32 4154 6 222 2 5762
  14 7473 3103 542 1506 4939 5 4192 712016 240"

end Pattern

end CleanupCourier
